import WalletHeadless.Notifications.Bus

/-!
# Each event is notified once, in order

* `Bus.Delivers`: an event whose handler has ended is notified once by its type and once as a message, and the
  messages of a wallet come in the order of its events;
* `inTime`: the balances that come before any later event of the wallet is notified;
* `delivers_inTime`: the runs of such answers, and what the child process emits;
* `update_overtakes`: a balance that comes late, and one that fails.
-/

namespace WalletHeadless

open Coop Function

variable {D B : Type}

/-- The balance that a handler was told. -/
def balanceOf (log : List (Event (BusOp.Ans (D := D) (B := B)))) : Option B :=
  log.findSome? fun e => match e with
    | ⟨.getTxBalance .., .ok balance⟩ => some balance
    | _ => none

/-- Each event whose handler has ended is notified once by its type and once as a message, no other has been notified,
and the messages of a wallet come in the order of its events. -/
structure Bus.Delivers (S : Bus D B) : Prop where
  once : ∀ (i : Nat) (p : Proc BusOp.Ans JsError Unit (Subscribed D)), S.procs[i]? = some p → p.rest.Ended →
    S.state.filter (fun e => e.flow = i) =
      [⟨i, p.req.event.type, p.req.notification (balanceOf p.log)⟩,
        ⟨i, EVENTBUS_EVENT_NAME, p.req.notification (balanceOf p.log)⟩]
  pending : ∀ (i : Nat) (p : Proc BusOp.Ans JsError Unit (Subscribed D)), S.procs[i]? = some p → ¬ p.rest.Ended →
    S.state.filter (fun e => e.flow = i) = []
  ordered : ∀ wallet, (S.messages wallet).Pairwise fun e e' => e.flow < e'.flow

/-- A balance comes, and no later event of the wallet has been notified. -/
def inTime (S : Bus D B) (i : Nat) (c : BusOp D B) (r : c.Ans) (s : List (Emission D B)) : Bool :=
  match c, r with
  | .getTxBalance .., .error _ => false
  | .getTxBalance .., .ok _ => s.all fun e => !decide (i < e.flow ∧ S.wallet e.flow = S.wallet i)
  | .emit .., _ => true

/-! ## Ghost states -/

inductive BusPhase
  | waiting
  | ready
  | typed
  | done
  | failed
deriving DecidableEq

/-- The event of a handler, how far it is, and the balance that it was told. -/
structure BusGhost (D B : Type) where
  req : Option (Subscribed D) := none
  phase : BusPhase := .waiting
  balance : Option B := none

namespace BusGhost

def wallet (q : BusGhost D B) : Option WalletRef := q.req.map Subscribed.wallet

inductive Allows (q : BusGhost D B) : BusOp D B → Prop
  | balance {wallet : WalletRef} {tx : D} (hq : q.phase = .waiting) : Allows q (.getTxBalance wallet tx)
  | typed {req : Subscribed D} (hreq : q.req = some req) (hq : q.phase = .ready) :
      Allows q (.emit req.event.type (req.notification q.balance))
  | message {req : Subscribed D} (hreq : q.req = some req) (hq : q.phase = .typed) :
      Allows q (.emit EVENTBUS_EVENT_NAME (req.notification q.balance))

def next (q : BusGhost D B) : (c : BusOp D B) → c.Ans → BusGhost D B
  | .getTxBalance .., .ok balance => { q with phase := .ready, balance := q.balance.or (some balance) }
  | .getTxBalance .., .error _ => { q with phase := .failed }
  | .emit .., _ => { q with phase := if q.phase = .ready then .typed else .done }

theorem next_typed {q : BusGhost D B} (hq : q.phase = .ready) (name : String) (data : Notification D B) :
    (q.next (.emit name data) ()).phase = .typed := if_pos hq

theorem next_done {q : BusGhost D B} (hq : q.phase = .typed) (name : String) (data : Notification D B) :
    (q.next (.emit name data) ()).phase = .done := if_neg (by rw [hq]; decide)

/-- The ghost state in which an event enters. -/
def enter (req : Subscribed D) : BusGhost D B where
  req := some req
  phase := if req.event.tx.isSome then .waiting else .ready

/-- The handler has ended. -/
def Final (q : BusGhost D B) : Prop := q.phase = .done ∨ q.phase = .failed

/-- Other handlers may run. -/
def Rests (q : BusGhost D B) : Prop := q.phase ≠ .ready ∧ q.phase ≠ .typed

theorem rests_of_phase {q : BusGhost D B} (h : q.phase = .waiting ∨ q.Final) : q.Rests := by
  obtain h | h | h := h <;> exact ⟨by rw [h]; decide, by rw [h]; decide⟩

/-- What flow `i` has emitted. -/
def sent (q : BusGhost D B) (i : Nat) : List (Emission D B) :=
  q.req.elim [] fun req =>
    match q.phase with
    | .typed => [⟨i, req.event.type, req.notification q.balance⟩]
    | .done => [⟨i, req.event.type, req.notification q.balance⟩, ⟨i, EVENTBUS_EVENT_NAME, req.notification q.balance⟩]
    | _ => []

theorem sent_nil {q : BusGhost D B} (hq : q.phase = .waiting ∨ q.phase = .ready) (i : Nat) : q.sent i = [] := by
  unfold sent
  cases q.req with
  | none => rfl
  | some req => obtain hq | hq := hq <;> simp [hq]

theorem sent_done {q : BusGhost D B} {req : Subscribed D} (hreq : q.req = some req) (hq : q.phase = .done) (i : Nat) :
    q.sent i = [⟨i, req.event.type, req.notification q.balance⟩,
      ⟨i, EVENTBUS_EVENT_NAME, req.notification q.balance⟩] := by
  simp [sent, hreq, hq]

/-- What was sent is the notification of an event. -/
theorem type_of_sent {q : BusGhost D B} {i : Nat} {e : Emission D B} (he : e ∈ q.sent i) :
    ∃ (req : Subscribed D), e.data.type = req.event.type := by
  unfold sent at he
  cases hreq : q.req with
  | none =>
      rw [hreq] at he
      cases he
  | some req =>
      rw [hreq, Option.elim_some] at he
      refine ⟨req, ?_⟩
      split at he <;> simp at he
      · rw [he]
        rfl
      · rcases he with rfl | rfl <;> rfl

end BusGhost

def busProtocol (D B : Type) : Protocol (BusOp.Ans (D := D) (B := B)) (BusGhost D B) where
  allows := BusGhost.Allows
  next := BusGhost.next

theorem notify_bus {q : BusGhost D B} {req : Subscribed D} (hreq : q.req = some req) (hq : q.phase = .ready) :
    (busProtocol D B).wp (notify (req.notification q.balance)) q (fun _ q => q.Final) fun _ q => q.Final := by
  refine (Protocol.wp_bind ..).mpr ⟨.typed hreq hq, fun _ _ => ?_⟩
  let data : Notification D B := req.notification q.balance
  have htyped : (q.next (.emit data.type data) ()).phase = .typed := BusGhost.next_typed hq _ _
  exact ⟨.message (q := q.next (.emit data.type data) ()) hreq htyped, fun _ _ => .inl
    (BusGhost.next_done htyped EVENTBUS_EVENT_NAME data)⟩

theorem handle_bus (req : Subscribed D) :
    (busProtocol D B).wp req.handle (.enter req) (fun _ q => q.Final) fun _ q => q.Final := by
  unfold Subscribed.handle
  cases htx : req.event.tx with
  | none =>
      have hready : (BusGhost.enter req : BusGhost D B).phase = .ready := by simp [BusGhost.enter, htx]
      exact notify_bus (q := .enter req) rfl hready
  | some tx =>
      have hwaiting : (BusGhost.enter req : BusGhost D B).phase = .waiting := by simp [BusGhost.enter, htx]
      refine (Protocol.wp_bind ..).mpr ((Protocol.wp_attempt ..).mpr ⟨.balance hwaiting, fun r _ =>
        ⟨fun balance hr => ?_, fun e hr => ?_⟩⟩)
      · subst hr
        exact notify_bus (q := { BusGhost.enter req with phase := .ready, balance := some balance }) rfl rfl
      · subst hr
        exact .inr rfl

/-! ## The invariant -/

structure DeliveryInv (s : List (Emission D B)) (g : Nat → BusGhost D B) : Prop where
  sent : ∀ i, s.filter (fun e => e.flow = i) = (g i).sent i
  ok : ∀ i, (g i).phase ≠ .failed
  ordered : s.Pairwise fun e e' => e.name = EVENTBUS_EVENT_NAME → e'.name = EVENTBUS_EVENT_NAME →
    (g e.flow).wallet = (g e'.flow).wallet → e.flow < e'.flow
  ahead : ∀ i, ¬ (g i).Rests → ∀ e ∈ s, e.name = EVENTBUS_EVENT_NAME → (g e.flow).wallet = (g i).wallet → e.flow < i

theorem busWallet_update {g : Nat → BusGhost D B} {i : Nat} {q : BusGhost D B} (hq : q.req = (g i).req) (j : Nat) :
    (update g i q j).wallet = (g j).wallet :=
  update_tag BusGhost.wallet (by rw [BusGhost.wallet, BusGhost.wallet, hq]) j

namespace DeliveryInv

variable {s : List (Emission D B)} {g : Nat → BusGhost D B} {i : Nat}

/-- An emission comes from a handler that has emitted. -/
theorem sent_of_mem (h : DeliveryInv s g) {e : Emission D B} (he : e ∈ s) : e ∈ (g e.flow).sent e.flow := by
  rw [← h.sent]
  exact List.mem_filter.mpr ⟨he, decide_eq_true rfl⟩

/-- Flow `i` goes on and emits nothing. -/
theorem quiet (h : DeliveryInv s g) {q : BusGhost D B} (hreq : q.req = (g i).req) (hsent : q.sent i = (g i).sent i)
    (hok : q.phase ≠ .failed) (hahead : ¬ q.Rests → ∀ e ∈ s, e.name = EVENTBUS_EVENT_NAME →
      (g e.flow).wallet = (g i).wallet → e.flow < i) : DeliveryInv s (update g i q) where
  sent j := by
    by_cases hj : j = i
    · subst hj
      rw [update_self, hsent, h.sent]
    · rw [update_of_ne hj, h.sent]
  ok := (forall_update_iff g fun _ q => q.phase ≠ .failed).mpr ⟨hok, fun j _ => h.ok j⟩
  ordered := by simpa only [busWallet_update hreq] using h.ordered
  ahead j := by
    simp only [busWallet_update hreq]
    by_cases hj : j = i
    · subst hj
      rw [update_self]
      exact hahead
    · rw [update_of_ne hj]
      exact h.ahead j

/-- Flow `i` emits. -/
theorem emit (h : DeliveryInv s g) {q : BusGhost D B} (hreq : q.req = (g i).req) {name : String}
    {data : Notification D B} (hr : ∀ j, j ≠ i → (g j).Rests) (hi : ¬ (g i).Rests)
    (hsent : q.sent i = (g i).sent i ++ [⟨i, name, data⟩]) (hok : q.phase ≠ .failed)
    (hq : ¬ q.Rests → name ≠ EVENTBUS_EVENT_NAME) : DeliveryInv (s ++ [⟨i, name, data⟩]) (update g i q) where
  sent j := by
    rw [List.filter_append]
    by_cases hj : j = i
    · subst hj
      rw [update_self, hsent, h.sent]
      simp
    · rw [update_of_ne hj, h.sent]
      simp [Ne.symm hj]
  ok := (forall_update_iff g fun _ q => q.phase ≠ .failed).mpr ⟨hok, fun j _ => h.ok j⟩
  ordered := by
    simp only [busWallet_update hreq]
    refine List.pairwise_append.mpr ⟨h.ordered, List.pairwise_singleton _ _, fun e he e' he' => ?_⟩
    cases List.mem_singleton.mp he'
    exact fun hmessage _ hwallet => h.ahead i hi e he hmessage hwallet
  ahead j hj e he hmessage hwallet := by
    simp only [busWallet_update hreq] at hwallet
    by_cases hji : j = i
    · subst hji
      rw [update_self] at hj
      rcases List.mem_append.mp he with he | he
      · exact h.ahead j hi e he hmessage hwallet
      · cases List.mem_singleton.mp he
        exact absurd hmessage (hq hj)
    · rw [update_of_ne hji] at hj
      exact absurd (hr j hji) hj

/-- An event comes while all handlers rest. -/
theorem enter (h : DeliveryInv s g) {n : Nat} (hfresh : ∀ i, n ≤ i → g i = {}) (hr : ∀ j, (g j).Rests)
    (req : Subscribed D) : DeliveryInv s (update g n (.enter req)) := by
  have hlt {e : Emission D B} (he : e ∈ s) : e.flow < n := by
    by_contra hle
    have hmem := h.sent_of_mem he
    rw [hfresh e.flow (Nat.le_of_not_lt hle)] at hmem
    cases hmem
  have hsame {e : Emission D B} (he : e ∈ s) : update g n (BusGhost.enter req) e.flow = g e.flow :=
    update_of_ne (Nat.ne_of_lt (hlt he)) _ _
  have hphase : (BusGhost.enter req : BusGhost D B).phase = .waiting ∨ (BusGhost.enter req : BusGhost D B).phase = .ready := by
    unfold BusGhost.enter
    split
    · exact .inl rfl
    · exact .inr rfl
  refine ⟨fun j => ?_, fun j => ?_, h.ordered.imp_of_mem fun he he' hlt => ?_, fun j hj e he hmessage hwallet => ?_⟩
  · by_cases hj : j = n
    · subst hj
      rw [update_self, h.sent, hfresh j le_rfl]
      exact (BusGhost.sent_nil hphase j).symm
    · rw [update_of_ne hj, h.sent]
  · by_cases hj : j = n
    · subst hj
      rw [update_self]
      obtain hq | hq := hphase <;> (rw [hq]; decide)
    · rw [update_of_ne hj]
      exact h.ok j
  · rwa [hsame he, hsame he']
  · by_cases hjn : j = n
    · rw [hjn]
      exact hlt he
    · rw [update_of_ne hjn] at hj
      exact absurd (hr j) hj

theorem perform (h : DeliveryInv s g) {S : Bus D B} {s' : List (Emission D B)} {c : BusOp D B} {w r : c.Ans}
    (hwallet : (bus D B).waits c = true → ∀ j, (g j).wallet = S.wallet j) (hG : inTime S i c w s = true)
    (hr : ∀ j, j ≠ i → (g j).Rests) (hc : (g i).Allows c) (hp : (bus D B).perform i c w s = some (r, s')) :
    DeliveryInv s' (update g i ((g i).next c r)) := by
  cases hc with
  | balance hq =>
      cases hp
      cases w with
      | error e => cases hG
      | ok balance =>
          refine h.quiet rfl ((BusGhost.sent_nil (.inr rfl) i).trans (BusGhost.sent_nil (.inl hq) i).symm)
            (by simp [BusGhost.next])
            fun _ e he _ hsame => ?_
          -- flow `i` has emitted nothing, and no later flow of the wallet has
          have hne : e.flow ≠ i := by
            intro hi
            have hmem := h.sent_of_mem he
            rw [hi, BusGhost.sent_nil (.inl hq)] at hmem
            cases hmem
          have hlater := List.all_eq_true.mp hG e he
          rw [hwallet rfl, hwallet rfl] at hsame
          simp only [hsame, and_true, Bool.not_eq_true', decide_eq_false_iff_not] at hlater
          omega
  | @typed req hreq hq =>
      cases hp
      refine h.emit (q := (g i).next (.emit req.event.type (req.notification (g i).balance)) ()) rfl hr
        (fun hrests => hrests.1 hq) ?_ (by rw [BusGhost.next_typed hq]; decide) fun _ =>
        WalletEvent.type_ne _
      simp [BusGhost.sent, BusGhost.next, hreq, hq]
  | @message req hreq hq =>
      cases hp
      refine h.emit (q := (g i).next (.emit EVENTBUS_EVENT_NAME (req.notification (g i).balance)) ()) rfl hr
        (fun hrests => hrests.2 hq) ?_ (by rw [BusGhost.next_done hq]; decide) fun hrests => ?_
      · simp [BusGhost.sent, BusGhost.next, hreq, hq]
      · refine absurd ⟨?_, ?_⟩ hrests <;> (rw [BusGhost.next_done hq]; decide)

end DeliveryInv

/-! ## Runs -/

theorem BusGhost.next_req (q : BusGhost D B) (c : BusOp D B) (r : c.Ans) : (q.next c r).req = q.req := by
  cases c with
  | getTxBalance wallet tx => cases r <;> rfl
  | emit name data => rfl

abbrev BusCoherent (S : Bus D B) (g : Nat → BusGhost D B) : Prop :=
  Coherent (bus D B) (busProtocol D B) BusGhost.enter {} BusGhost.Final S g

section
variable {S : Bus D B} {g : Nat → BusGhost D B}

theorem BusCoherent.ghost (hg : BusCoherent S g) {i : Nat} {p : Proc BusOp.Ans JsError Unit (Subscribed D)}
    (hp : S.procs[i]? = some p) : g i = (busProtocol D B).after (.enter p.req) p.log := by
  rw [hg.traced i p hp]
  cases p.rest <;> rfl

theorem BusCoherent.req (hg : BusCoherent S g) {i : Nat} {p : Proc BusOp.Ans JsError Unit (Subscribed D)}
    (hp : S.procs[i]? = some p) : (g i).req = some p.req := by
  rw [hg.ghost hp]
  exact (busProtocol D B).after_tag BusGhost.req (fun _ _ => rfl) BusGhost.next_req _ _

theorem BusCoherent.wallet (hg : BusCoherent S g) (i : Nat) : (g i).wallet = S.wallet i := by
  cases hp : S.procs[i]? with
  | none =>
      rw [hg.unborn i (List.getElem?_eq_none_iff.mp hp), Bus.wallet, hp]
      rfl
  | some p =>
      rw [BusGhost.wallet, hg.req hp, Bus.wallet, hp]
      rfl

theorem BusGhost.after_balance (q : BusGhost D B) (log : List (Event (BusOp.Ans (D := D) (B := B)))) :
    ((busProtocol D B).after q log).balance = q.balance.or (balanceOf log) := by
  induction log generalizing q with
  | nil => exact (Option.or_none).symm
  | cons e log ih =>
      obtain ⟨c, r⟩ := e
      refine (ih (q.next c r)).trans ?_
      cases c with
      | getTxBalance wallet tx =>
          cases r with
          | error e => rfl
          | ok balance => exact Option.or_assoc
      | emit name data => rfl

theorem BusCoherent.balance (hg : BusCoherent S g) {i : Nat} {p : Proc BusOp.Ans JsError Unit (Subscribed D)}
    (hp : S.procs[i]? = some p) : (g i).balance = balanceOf p.log := by
  rw [hg.ghost hp, BusGhost.after_balance]
  rfl

end

theorem bus_guarded :
    Guarded (bus D B) Subscribed.handle (busProtocol D B) BusGhost.enter {} BusGhost.Rests BusGhost.Final
      (fun req q => q.req = some req) (fun _ _ => True) (fun S i c r s => inTime S i c r s = true) DeliveryInv where
  spawn S g req w hg hr h _ := ⟨h.enter (fun i hi => hg.unborn i hi) hr req, handle_bus req⟩
  call s g i c h hr ha hw := by
    have hrests : (g i).Rests := by
      cases ha with
      | balance hq => exact BusGhost.rests_of_phase (.inl hq)
      | _ => cases hw
    refine ⟨hrests, ?_⟩
    rw [show (busProtocol D B).call (g i) c = g i from rfl, update_eq_self]
    exact h
  perform S g₀ s g i q c w r s' hg hagree hof hborn hG h hr ha hc hp := by
    obtain rfl : q = g i := hc
    refine ⟨trivial, h.perform (S := S) (fun hw j => ?_) hG hr ha hp⟩
    by_cases hj : j = i
    · subst hj
      obtain ⟨p, hproc⟩ := hborn hw
      rw [BusGhost.wallet, hof p hproc, Bus.wallet, hproc]
      rfl
    · rw [hagree j hj]
      exact BusCoherent.wallet hg j
  ext S g e s _ _ _ _ _ := e.elim
  finish s g i h _ hf := ⟨BusGhost.rests_of_phase (.inr hf), by
    rw [show (busProtocol D B).finish (g i) = g i from rfl, update_eq_self]; exact h⟩
  call_sync _ _ _ := rfl
  rests_fresh := BusGhost.rests_of_phase (.inl rfl)
  of_enter _ := rfl
  of_call _ _ _ hq := hq
  of_next _ q c r hq := (BusGhost.next_req q c r).trans hq
  of_finish _ _ hq := hq

theorem deliveryInv_init : DeliveryInv ([] : List (Emission D B)) fun _ => {} where
  sent i := (BusGhost.sent_nil (.inl rfl) i).symm
  ok i := by simp
  ordered := .nil
  ahead i hi := absurd (BusGhost.rests_of_phase (.inl rfl)) hi

/-- While each balance comes, and before any later event of the wallet is notified, each event is notified once by its
type and once as a message, in the order of the events; and the child process emits the messages in this order, each
followed by its typed notification. -/
theorem delivers_inTime {S : Bus D B} (h : Bus.Run (fun S l => S.Meets (bus D B) Subscribed.handle
      (fun S i c r s => inTime S i c r s = true) l) S) :
    S.Delivers ∧ ∀ (stringify : Notification D B → String) (parse : String → Option (Notification D B)),
      (∀ e ∈ S.state, parse (stringify e.data) = some e.data) →
      childEmits stringify parse S.state =
        ((S.state.filter fun e => e.name = EVENTBUS_EVENT_NAME).map fun e => e.data).flatMap fun data =>
          [(EVENTBUS_EVENT_NAME, data), (data.type, data)] := by
  obtain ⟨g, hg, -, hI⟩ := bus_guarded.reach deliveryInv_init (h.mono fun _ _ hok => ⟨trivial, hok⟩)
  refine ⟨⟨fun i p hp hend => ?_, fun i p hp hend => ?_, fun wallet => ?_⟩, fun stringify parse hjson => ?_⟩
  · obtain ⟨q, hfinal, hq⟩ := (hg.resting i p hp).of_ended hend
    obtain rfl : q = g i := hq
    have hdone : (g i).phase = .done := hfinal.resolve_right (hI.ok i)
    rw [hI.sent, BusGhost.sent_done (BusCoherent.req hg hp) hdone, BusCoherent.balance hg hp]
  · rw [hI.sent]
    have hresting := hg.resting i p hp
    cases hrest : p.rest with
    | ret a => exact absurd (by rw [hrest]; trivial) hend
    | throw e => exact absurd (by rw [hrest]; trivial) hend
    | op c k =>
        rw [hrest] at hresting
        obtain ⟨⟨q, hallows, hq⟩, hwaits, -⟩ := hresting
        obtain rfl : q = g i := hq
        cases hallows with
        | balance hq => exact BusGhost.sent_nil (.inl hq) i
        | _ => cases hwaits
  · refine List.pairwise_filter.mpr (hI.ordered.imp fun hlt he he' => ?_)
    obtain ⟨hname, hwallet⟩ := of_decide_eq_true he
    obtain ⟨hname', hwallet'⟩ := of_decide_eq_true he'
    exact hlt hname hname' (by rw [BusCoherent.wallet hg, BusCoherent.wallet hg, hwallet, hwallet'])
  · unfold childEmits pipe
    rw [List.flatMap_map, List.flatMap_map]
    refine List.flatMap_congr fun e he => ?_
    have hmem : e ∈ S.state := (List.mem_filter.mp he).1
    obtain ⟨req, htype⟩ := BusGhost.type_of_sent (hI.sent_of_mem hmem)
    have hne : e.data.type ≠ "" := by
      rw [htype]
      exact req.event.type_ne_empty
    simp only [handleMessage, hjson e hmem, if_neg hne]

def emits (event : WalletEvent String) : BusStep String Nat := .spawn ⟨0, "w", event⟩ fun _ c =>
  match c with
  | .getTxBalance .. => .ok 0
  | .emit .. => ()

/-- The balance that flow `i` awaits comes, or fails. -/
def balanceComes (i : Nat) (balance : Except JsError Nat) : BusStep String Nat := .resume i fun _ c =>
  match c with
  | .getTxBalance .. => balance
  | .emit .. => ()

/-- A transaction comes and is updated, and its balances come in this order. -/
def updated : List (BusStep String Nat) :=
  [emits (.newTx "tx"), emits (.updateTx "tx"), balanceComes 0 (.ok 5), balanceComes 1 (.ok 5)]

def newTxData : Notification String Nat := ⟨"wallet:new-tx", "w", .data "tx", none, some 5⟩

def updateTxData : Notification String Nat := ⟨"wallet:update-tx", "w", .data "tx", none, some 5⟩

def EventData.json : EventData String → String
  | .state n => toString n
  | .data text => "\"" ++ text ++ "\""

/-- The text of a notification with a balance. -/
def Notification.json (d : Notification String Nat) : String :=
  "\x7b\"type\":\"" ++ d.type ++ "\",\"walletId\":\"" ++ d.walletId ++ "\",\"data\":" ++ d.data.json ++
    ",\"balance\":" ++ toString (d.balance.getD 0) ++ "\x7d"

/-- The notification of a text, among those of `updated`. -/
def Notification.ofJson (text : String) : Option (Notification String Nat) :=
  [newTxData, updateTxData].find? fun d => d.json = text

theorem updated_messages :
    (Sys.exec (bus String Nat) Subscribed.handle
      (fun S l => S.Meets (bus String Nat) Subscribed.handle (fun S i c r s => inTime S i c r s = true) l) updated
      ⟨[], []⟩).any (fun S => ((S.state.filter fun e => e.name = EVENTBUS_EVENT_NAME).map fun e => e.data) =
        [newTxData, updateTxData] ∧ ∀ e ∈ S.state, Notification.ofJson e.data.json = some e.data) = true := by
  decide +kernel

/-- The child process emits the new transaction and then its update. -/
theorem updated_delivered :
    ∃ S : Bus String Nat, S.Delivers ∧ childEmits Notification.json Notification.ofJson S.state =
      [("message", newTxData), ("wallet:new-tx", newTxData), ("message", updateTxData),
        ("wallet:update-tx", updateTxData)] := by
  obtain ⟨S, hS, hp⟩ := (Option.any_eq_true _ _).mp updated_messages
  obtain ⟨hmessages, hjson⟩ := of_decide_eq_true hp
  obtain ⟨hdelivers, hchild⟩ := delivers_inTime (Reach.start.exec hS)
  refine ⟨S, hdelivers, ?_⟩
  rw [hchild _ _ hjson, hmessages]
  rfl

/-- The balance of the new transaction comes last. -/
def overtaken : List (BusStep String Nat) :=
  [emits (.newTx "tx"), emits (.updateTx "tx"), balanceComes 1 (.ok 5), balanceComes 0 (.ok 5)]

def unbalanced : List (BusStep String Nat) :=
  [emits (.newTx "tx"), balanceComes 0 (.error { message := "" })]

theorem overtaken_messages :
    (Sys.exec (bus String Nat) Subscribed.handle (fun _ _ => True) overtaken ⟨[], []⟩).any (fun S : Bus String Nat =>
      (S.messages 0).map Emission.data = [updateTxData, newTxData] ∧
        (S.messages 0).map Emission.flow = [1, 0]) = true := by
  decide +kernel

theorem unbalanced_silent :
    (Sys.exec (bus String Nat) Subscribed.handle (fun _ _ => True) unbalanced ⟨[], []⟩).any (fun S =>
      S.state = [] ∧ ∃ p ∈ S.procs[0]?, p.rest.Ended) = true := by
  decide +kernel

/-- An update overtakes its transaction when its balance comes first, and a transaction whose balance fails is never
notified. -/
theorem update_overtakes :
    (∃ S : Bus String Nat, Bus.Run (fun _ _ => True) S ∧
      (S.messages 0).map Emission.data = [updateTxData, newTxData] ∧ ¬ S.Delivers) ∧
    ∃ S : Bus String Nat, Bus.Run (fun _ _ => True) S ∧ S.state = [] ∧
      (∃ p, S.procs[0]? = some p ∧ p.rest.Ended) ∧ ¬ S.Delivers := by
  constructor
  · obtain ⟨S, hS, hp⟩ := (Option.any_eq_true _ _).mp overtaken_messages
    obtain ⟨hdata, hflow⟩ := of_decide_eq_true hp
    refine ⟨S, Reach.start.exec hS, hdata, fun h => ?_⟩
    have hordered : ((S.messages 0).map Emission.flow).Pairwise fun i j => i < j :=
      List.pairwise_map.mpr (h.ordered 0)
    rw [hflow] at hordered
    exact absurd hordered (by decide)
  · obtain ⟨S, hS, hp⟩ := (Option.any_eq_true _ _).mp unbalanced_silent
    obtain ⟨hstate, p, hproc, hended⟩ := of_decide_eq_true hp
    refine ⟨S, Reach.start.exec hS, hstate, ⟨p, hproc, hended⟩, fun h => ?_⟩
    have honce := h.once 0 p hproc hended
    rw [hstate] at honce
    cases honce

end WalletHeadless
