import WalletHeadless.Coop.Protocol
import WalletHeadless.Server.Requests
import WalletHeadless.Services.Asks

/-!
# What a start or a stop does with the wallets

The ghost state of a start: it finds its id free, creates a wallet, starts it, registers it and sets the
signing method of what it then finds under its id. A stop finds a wallet, stops it and deletes its id.

* `StartPhase`, `startProtocol`: the phases and their order;
* `starts_wp`: the handlers follow the protocol.
-/

namespace WalletHeadless

open Coop Js
open Prog (uses_ask uses_orThrow)

/-- The requests that start or stop a wallet. -/
def Request.ManagesWallets : Request → Prop
  | start _ | startHsmWallet _ | startFireblocksWallet _ | stop _ => True
  | _ => False

instance : DecidablePred Request.ManagesWallets
  | .start _ | .startHsmWallet _ | .startFireblocksWallet _ | .stop _ => isTrue trivial
  | .simpleSendTx _ | .sendTx _ | .createToken _ | .mintTokens _ | .meltTokens _ | .createNft _ => isFalse id
  | .createNanoContract _ | .executeNanoContractMethod _ | .createOnChainBlueprint _ => isFalse id
  | .runTemplate _ | .buildTemplate _ | .utxoConsolidation _ | .p2shSignAndPush _ => isFalse id
  | .swapSignAndPush _ | .unlockInputs _ | .buildTxProposal _ | .buildCreateTokenTxProposal _ => isFalse id
  | .buildMintTokensTxProposal _ | .buildMeltTokensTxProposal _ | .hsmSignTx _ _ _ => isFalse id
  | .reloadConfig _ | .swapBuildTxProposal _ | .signTxProposal _ | .fetchFromService _ => isFalse id
  | .listenedProposalList _ | .registerProposal _ | .deleteListenedProposal _ => isFalse id

/-- The id that a request starts. -/
def Request.startId : Request → Option String
  | start body => body.walletId
  | startHsmWallet body => truthy body.walletId
  | startFireblocksWallet body => truthy body.walletId
  | _ => none

/-- The id that a request stops. -/
def Request.stopId : Request → Option String
  | stop walletId => some walletId
  | _ => none

/-- Where a start or a stop is; `done` when it has nothing to do with the wallets any more. -/
inductive StartPhase
  | done
  | entered
  | checked
  | created (w : WalletRef)
  | started (w : WalletRef)
  | registered (w : WalletRef)
  | stopEntered
  | stopping (w : WalletRef)
  | stopped (w : WalletRef)
deriving DecidableEq

namespace StartPhase

/-- Other handlers may run. -/
def Rests : StartPhase → Prop
  | done | checked | created _ | registered _ | stopping _ => True
  | _ => False

/-- The handler may end. -/
def Ends : StartPhase → Prop
  | started _ | stopped _ => False
  | _ => True

/-- The start has found its id free. -/
def Starts : StartPhase → Prop
  | checked | created _ | started _ | registered _ => True
  | _ => False

/-- The stop has found a wallet. -/
def Stops : StartPhase → Prop
  | stopping _ | stopped _ => True
  | _ => False

/-- The phases of a start. -/
def OfStart : StartPhase → Prop
  | stopEntered | stopping _ | stopped _ => False
  | _ => True

/-- The phases of a stop. -/
def OfStop : StartPhase → Prop
  | done | stopEntered | stopping _ | stopped _ => True
  | _ => False

end StartPhase

/-- The calls that have nothing to do with the wallets under an id. -/
def StartIdle : Op → Prop
  | .registry .getConfig | .registry (.hasHsmWallet _) | .registry (.getTxSignatureMethod _) => True
  | .registry (.setHsmWallet _ _) | .registry (.deleteHsmWallet _) => True
  | .registry (.setLogger _) | .registry (.deleteLogger _) => True
  | .registry _ | .wallet _ => False
  | _ => True

theorem SigningOp.startIdle {c : Op} (h : SigningOp c) : StartIdle c := by
  cases c with
  | registry c => cases c <;> trivial
  | wallet c => exact h.elim
  | _ => trivial

theorem LocalOp.startIdle {c : Op} (h : LocalOp c) : StartIdle c := by
  cases c with
  | registry c => cases c <;> trivial
  | wallet c => exact h.elim
  | _ => trivial

structure StartGhost where
  walletId : String
  phase : StartPhase

namespace StartGhost

/-- The questions of each phase. -/
inductive Allows : StartGhost → Op → Prop
  | quiet {q : StartGhost} {c : Op} (hc : StartIdle c) (hw : c.waits = false) : Allows q c
  | idle {q : StartGhost} {c : Op} (hq : q.phase.Rests) (hc : StartIdle c) : Allows q c
  | look (walletId : String) : Allows ⟨walletId, .entered⟩ (.registry (.getWallet walletId))
  | create (walletId : String) (walletConfig : WalletConfig) (config : Config) :
      Allows ⟨walletId, .checked⟩ (.registry (.newWallet walletId walletConfig config))
  | run (walletId : String) (w : WalletRef) : Allows ⟨walletId, .created w⟩ (.wallet (.start w))
  | register (walletId : String) (w : WalletRef) :
      Allows ⟨walletId, .started w⟩ (.registry (.setWallet walletId w))
  | find (walletId : String) (w : WalletRef) :
      Allows ⟨walletId, .registered w⟩ (.registry (.getWallet walletId))
  | sign (walletId : String) (w : WalletRef) (method : SigningMethod) :
      Allows ⟨walletId, .registered w⟩ (.registry (.setExternalTxSigningMethod w method))
  | search (walletId : String) : Allows ⟨walletId, .stopEntered⟩ (.registry (.getWallet walletId))
  | halt (walletId : String) (w : WalletRef) : Allows ⟨walletId, .stopping w⟩ (.wallet (.stop w))
  | forget (walletId : String) (w : WalletRef) :
      Allows ⟨walletId, .stopped w⟩ (.registry (.deleteWallet walletId))

/-- A start that finds a wallet under its id has nothing to do, a stop that finds none neither. -/
def found : StartPhase → Option WalletRef → StartPhase
  | .entered, none => .checked
  | .entered, some _ => .done
  | .stopEntered, none => .done
  | .stopEntered, some w => .stopping w
  | p, _ => p

def made : StartPhase → Except JsError WalletRef → StartPhase
  | .checked, .ok w => .created w
  | _, _ => .done

def ran (w : WalletRef) : StartPhase → Except JsError Unit → StartPhase
  | .created _, .ok _ => .started w
  | _, _ => .done

def put (w : WalletRef) : StartPhase → StartPhase
  | .started _ => .registered w
  | _ => .done

def halted (w : WalletRef) : StartPhase → Except JsError Unit → StartPhase
  | .stopping _, .ok _ => .stopped w
  | _, _ => .done

def nextPhase (p : StartPhase) : (c : Op) → c.Ans → StartPhase
  | .registry (.getWallet _), r => found p r
  | .registry (.newWallet ..), r => made p r
  | .wallet (.start w), r => ran w p r
  | .registry (.setWallet _ w), _ => put w p
  | .wallet (.stop w), r => halted w p r
  | .registry (.deleteWallet _), _ => .done
  | _, _ => p

def next (q : StartGhost) (c : Op) (r : c.Ans) : StartGhost := ⟨q.walletId, nextPhase q.phase c r⟩

/-- The ghost state in which a request enters. -/
def enter (req : Request) : StartGhost :=
  match req.startId, req.stopId with
  | some walletId, _ => ⟨walletId, .entered⟩
  | none, some walletId => ⟨walletId, .stopEntered⟩
  | none, none => ⟨"", .done⟩

theorem enter_of_startId {req : Request} {walletId : String} (h : req.startId = some walletId) :
    enter req = ⟨walletId, .entered⟩ := by
  rw [enter, h]

theorem enter_ends (req : Request) : (enter req).phase.Ends := by
  unfold enter
  split <;> trivial

theorem next_idle {c : Op} (hc : StartIdle c) (q : StartGhost) (r : c.Ans) : q.next c r = q := by
  cases c with
  | registry c => cases c <;> first | rfl | exact hc.elim
  | wallet c => exact hc.elim
  | _ => rfl

/-- An answer leaves a start a start and a stop a stop. -/
theorem nextPhase_keeps (p : StartPhase) (c : Op) (r : c.Ans) :
    (p.OfStart → (nextPhase p c r).OfStart) ∧ (p.OfStop → (nextPhase p c r).OfStop) := by
  unfold nextPhase
  split
  next => unfold found; split <;> simp [StartPhase.OfStart, StartPhase.OfStop]
  next => unfold made; split <;> simp [StartPhase.OfStart, StartPhase.OfStop]
  next => unfold ran; split <;> simp [StartPhase.OfStart, StartPhase.OfStop]
  next => unfold put; split <;> simp [StartPhase.OfStart, StartPhase.OfStop]
  next => unfold halted; split <;> simp [StartPhase.OfStart, StartPhase.OfStop]
  next => exact ⟨fun _ => trivial, fun _ => trivial⟩
  next => exact ⟨id, id⟩

end StartGhost

/-- What a start that has registered its wallet finds under its id is that wallet. -/
def startProtocol : Protocol Op.Ans StartGhost where
  allows := StartGhost.Allows
  may
    | ⟨_, .registered w⟩, .registry (.getWallet _), r => r = none ∨ r = some w
    | _, _, _ => True
  next := StartGhost.next
  finish q := ⟨q.walletId, .done⟩

/-! ## The handlers follow the protocol -/

theorem StartPhase.Rests.ends {p : StartPhase} (h : p.Rests) : p.Ends := by
  cases p <;> trivial

section
variable {α : Type} {q : StartGhost}

theorem wp_startIdle {x : Async α} (hx : x.Uses StartIdle) (hq : q.phase.Rests) {post : α → StartGhost → Prop}
    {fail : JsError → StartGhost → Prop} (hpost : ∀ a, post a q) (hfail : ∀ e, fail e q) :
    startProtocol.wp x q post fail :=
  Prog.Uses.wp (hx.mono fun _ hc => ⟨.idle hq hc, fun r => StartGhost.next_idle hc q r⟩) hpost hfail

/-- What needs no more of the wallets. -/
theorem wp_startRests {x : Async α} (hx : x.Uses StartIdle) (hq : q.phase.Rests) :
    startProtocol.wp x q (fun _ q => q.phase.Rests) fun _ q => q.phase.Rests :=
  wp_startIdle hx hq (fun _ => hq) fun _ => hq

theorem wp_awaitStart {x : Async α} {post : α → StartGhost → Prop} {fail : JsError → StartGhost → Prop}
    (h : startProtocol.wp x q (fun a q => q.phase.Rests ∧ post a q) fun e q => q.phase.Rests ∧ fail e q) :
    startProtocol.wp (await x) q post fail :=
  (wp_await_iff ..).mpr (Protocol.wp_mono _ h (fun _ _ h => ⟨.idle h.1 trivial, fun _ _ => h.2⟩)
    fun _ _ h => ⟨.idle h.1 trivial, fun _ _ => h.2⟩)

end

theorem lib_startIdle (c : LibCall) : (lib c).Uses StartIdle := (uses_ask (c := Op.lib c) trivial).attempt

theorem getConfig_startIdle : getConfig.Uses StartIdle := (uses_ask (c := Op.registry _) trivial).attempt

theorem send_startIdle (body : ReplyBody) : (send body).Uses StartIdle := uses_ask trivial

section
variable (walletId : String)

theorem startWallet_wp (walletConfig : WalletConfig) (config : Config) (key mode : Option String) :
    startProtocol.wp (startWallet walletId walletConfig config key mode) ⟨walletId, .checked⟩
      (fun _ q => ∃ w, q = ⟨walletId, .registered w⟩) fun _ q => q.phase.Rests := by
  refine (Protocol.wp_ite ..).mpr ⟨fun _ => trivial, fun _ => ?_⟩
  refine (Protocol.wp_bind ..).mpr ((Protocol.wp_attempt ..).mpr ⟨.create _ _ _, fun r _ => ⟨fun w hr => ?_, fun e hr => ?_⟩⟩)
  · subst hr
    refine (Protocol.wp_bind ..).mpr (wp_startIdle (q := ⟨walletId, .created w⟩) (lib_startIdle _) trivial
      (fun _ => ?_) fun _ => trivial)
    refine (Protocol.wp_bind ..).mpr (wp_startIdle (q := ⟨walletId, .created w⟩) ?_ trivial (fun _ => ?_)
      fun _ => trivial)
    · split
      · exact lib_startIdle _
      · exact uses_pure _
    refine (Protocol.wp_bind ..).mpr ((Protocol.wp_attempt ..).mpr ⟨.run _ _, fun r _ => ⟨fun _ hr => ?_, fun e hr => ?_⟩⟩)
    · subst hr
      refine (Protocol.wp_bind ..).mpr ⟨.register _ _, fun _ _ => ?_⟩
      refine (Protocol.wp_bind ..).mpr (wp_startIdle (q := ⟨walletId, .registered w⟩)
        (uses_ask (c := Op.registry (.setLogger _)) trivial) trivial (fun _ => ?_) fun _ => trivial)
      split
      · exact wp_startIdle (q := ⟨walletId, .registered w⟩) (uses_ask (c := Op.registry (.setHsmWallet _ _)) trivial)
          trivial (fun _ => ⟨w, rfl⟩) fun _ => trivial
      · exact ⟨w, rfl⟩
    · subst hr
      trivial
  · subst hr
    trivial

theorem wp_awaitStartWallet (walletConfig : WalletConfig) (config : Config) (key mode : Option String) :
    startProtocol.wp (await (startWallet walletId walletConfig config key mode)) ⟨walletId, .checked⟩
      (fun _ q => ∃ w, q = ⟨walletId, .registered w⟩) fun _ q => q.phase.Rests := by
  refine wp_awaitStart (Protocol.wp_mono _ (startWallet_wp walletId walletConfig config key mode)
    (fun _ q hq => ⟨?_, hq⟩) fun _ _ h => ⟨h, h⟩)
  obtain ⟨w, rfl⟩ := hq
  trivial

theorem registerSigningMethod_wp (w : WalletRef) (method : SigningMethod) :
    startProtocol.wp (registerSigningMethod walletId method) ⟨walletId, .registered w⟩
      (fun _ q => q.phase.Rests) fun _ q => q.phase.Rests := by
  refine (Protocol.wp_bind ..).mpr ⟨.find _ _, fun r hr => ?_⟩
  obtain rfl | rfl : r = none ∨ r = some w := hr
  · trivial
  · exact ⟨.sign _ _ _, fun _ _ => trivial⟩

/-- A start that sets a signing method. -/
theorem wp_startSigned (walletConfig : WalletConfig) (config : Config) (key : Option String)
    (method : SigningMethod) (message : String) :
    startProtocol.wp (tryCatch (do
      await (startWallet walletId walletConfig config key)
      registerSigningMethod walletId method
      send .ok) fun _ => sendStatus 500 (.message message none)) ⟨walletId, .checked⟩
      (fun _ q => q.phase.Rests) fun _ q => q.phase.Rests := by
  have hfail {q : StartGhost} (hq : q.phase.Rests) : startProtocol.wp (sendStatus 500 (.message message none)) q
      (fun _ q => q.phase.Rests) fun _ q => q.phase.Rests := wp_startRests (uses_ask trivial) hq
  refine (Protocol.wp_tryCatch ..).mpr ((Protocol.wp_bind ..).mpr ?_)
  refine Protocol.wp_mono _ (wp_awaitStartWallet walletId walletConfig config key none) (fun _ q hq => ?_)
    fun _ _ hq => hfail hq
  obtain ⟨w, rfl⟩ := hq
  refine (Protocol.wp_bind ..).mpr (Protocol.wp_mono _ (registerSigningMethod_wp walletId w method)
    (fun _ q hq => ?_) fun _ _ hq => hfail hq)
  exact Protocol.wp_mono _ (wp_startRests (send_startIdle _) hq) (fun _ _ h => h) fun _ _ h => hfail h

/-- What `start` makes of a free id. -/
theorem startFree_wp (body : StartBody) (config : Config) :
    startProtocol.wp (startFree walletId body config) ⟨walletId, .checked⟩ (fun _ q => q.phase.Rests)
      fun _ q => q.phase.Rests := by
  have hmessage {q : StartGhost} (hq : q.phase.Rests) (message : String) : startProtocol.wp (sendMessage message) q
      (fun _ q => q.phase.Rests) fun _ q => q.phase.Rests := wp_startRests (send_startIdle _) hq
  have hconfig (data : Option MultisigData) (policy : Option ScanPolicy) :
      (walletConfigOf body config data policy).Uses StartIdle := by
    unfold walletConfigOf
    split
    · exact uses_pure _
    · refine uses_bind (Prog.uses_orThrow _ _) fun seed => ?_
      split
      · exact uses_pure _
      · refine uses_tryCatch (uses_map ?_) fun _ => uses_ite (uses_pure _) (uses_throwThe _)
        refine uses_bind (uses_tryCatch (lib_startIdle _) fun _ => uses_ite (uses_throwThe _) (uses_throwThe _))
          fun words => ?_
        split
        · exact uses_pure _
        · exact uses_ite (uses_pure _) (uses_throwThe _)
  unfold startFree
  split
  · exact hmessage (q := ⟨walletId, .checked⟩) trivial _
  · split
    · exact hmessage (q := ⟨walletId, .checked⟩) trivial _
    · refine (Protocol.wp_bind ..).mpr (wp_startIdle (q := ⟨walletId, .checked⟩) (hconfig _ _) trivial
        (fun walletConfig => ?_) fun _ => trivial)
      cases walletConfig with
      | error message => exact hmessage (q := ⟨walletId, .checked⟩) trivial _
      | ok walletConfig =>
          refine (Protocol.wp_tryCatch ..).mpr ((Protocol.wp_bind ..).mpr ?_)
          refine Protocol.wp_mono _ (wp_awaitStartWallet walletId _ config none _) (fun _ q hq => ?_)
            fun _ _ hq => hmessage hq _
          obtain ⟨w, rfl⟩ := hq
          exact Protocol.wp_mono _ (wp_startRests (send_startIdle _) trivial) (fun _ _ h => h) fun _ _ h => hmessage h _

end

/-- The handlers end where they can. -/
abbrev StartEnds {α : Type} (x : Async α) (q : StartGhost) : Prop :=
  startProtocol.wp x q (fun _ q => q.phase.Ends) fun _ q => q.phase.Ends

theorem StartEnds.of_rests {α : Type} {x : Async α} {q : StartGhost}
    (h : startProtocol.wp x q (fun _ q => q.phase.Rests) fun _ q => q.phase.Rests) : StartEnds x q :=
  Protocol.wp_mono _ h (fun _ _ h => h.ends) fun _ _ h => h.ends

/-- A reply before the id is looked up. -/
theorem startEnds_send (body : ReplyBody) {q : StartGhost} (hq : q.phase.Ends) : StartEnds (send body) q :=
  ⟨.quiet trivial rfl, fun _ _ => hq⟩

theorem start_wp (body : StartBody) : StartEnds (start body) (StartGhost.enter (.start body)) := by
  have hends := StartGhost.enter_ends (.start body)
  refine (Protocol.wp_bind ..).mpr ((Protocol.wp_attempt ..).mpr
    ⟨.quiet trivial rfl, fun r _ => ⟨fun config _ => ?_, fun _ _ => hends⟩⟩)
  have hsame : startProtocol.next (startProtocol.call (StartGhost.enter (.start body)) (.registry .getConfig))
      (.registry .getConfig) r = StartGhost.enter (.start body) := rfl
  rw [hsame]
  cases hkeys : keysRefused body with
  | some message => exact startEnds_send _ hends
  | none =>
      cases hid : body.walletId with
      | none => exact startEnds_send _ hends
      | some walletId =>
          rw [StartGhost.enter_of_startId (show (Request.start body).startId = some walletId from hid)]
          refine (Protocol.wp_bind ..).mpr ⟨.look _, fun w _ => ?_⟩
          cases w with
          | some w => exact startEnds_send (q := ⟨walletId, .done⟩) _ trivial
          | none => exact StartEnds.of_rests (startFree_wp walletId body config)

/-- A reply once the id has been looked up. -/
theorem startRests_send (body : ReplyBody) {q : StartGhost} (hq : q.phase.Rests) :
    startProtocol.wp (send body) q (fun _ q => q.phase.Rests) fun _ q => q.phase.Rests :=
  wp_startRests (send_startIdle body) hq

theorem hsmDisconnect_startIdle : (await hsmDisconnect).Uses StartIdle :=
  uses_await trivial (hsmDisconnect_uses.mono fun _ => SigningOp.startIdle)

theorem startConnected_starts (walletId key : String) :
    startProtocol.wp (startConnected walletId key) ⟨walletId, .checked⟩ (fun _ q => q.phase.Rests)
      fun _ q => q.phase.Rests := by
  have hclose (body : ReplyBody) : startProtocol.wp (do
      send body
      await hsmDisconnect) ⟨walletId, .checked⟩ (fun _ q => q.phase.Rests) fun _ q => q.phase.Rests :=
    wp_startRests (uses_bind (send_startIdle body) fun _ => hsmDisconnect_startIdle) trivial
  refine (Protocol.wp_bind ..).mpr (wp_startIdle (q := ⟨walletId, .checked⟩) ((uses_await trivial
    (isKeyValidXpriv_local key)).mono fun _ => LocalOp.startIdle) trivial (fun reason => ?_) fun _ => trivial)
  cases reason with
  | some reason => exact hclose _
  | none =>
      refine (Protocol.wp_bind ..).mpr (wp_startIdle (q := ⟨walletId, .checked⟩) ((uses_tryCatch (uses_bind
        (uses_await trivial (deriveMainKeysFromRoot_local key)) fun _ => uses_map (uses_await trivial (lib_local _)))
          fun _ => uses_pure _).mono fun _ => LocalOp.startIdle) trivial (fun xPub => ?_) fun _ => trivial)
      cases xPub with
      | error e => exact hclose _
      | ok xPub =>
          refine (Protocol.wp_bind ..).mpr (wp_startIdle (q := ⟨walletId, .checked⟩) hsmDisconnect_startIdle trivial
            (fun _ => ?_) fun _ => trivial)
          exact (Protocol.wp_bind ..).mpr (wp_startIdle (q := ⟨walletId, .checked⟩) getConfig_startIdle trivial
            (fun config => wp_startSigned walletId _ config _ _ _) fun _ => trivial)

theorem startHsmWallet_starts (body : StartHsmBody) :
    StartEnds (startHsmWallet body) (StartGhost.enter (.startHsmWallet body)) := by
  unfold startHsmWallet
  cases hid : truthy body.walletId with
  | none => exact startEnds_send _ (StartGhost.enter_ends _)
  | some walletId =>
      rw [StartGhost.enter_of_startId (show (Request.startHsmWallet body).startId = some walletId from hid)]
      refine (Protocol.wp_bind ..).mpr ⟨.look _, fun w _ => ?_⟩
      cases w with
      | some w => exact startEnds_send (q := ⟨walletId, .done⟩) _ trivial
      | none =>
          refine StartEnds.of_rests (q := ⟨walletId, .checked⟩) ?_
          cases truthy body.hsmKey with
          | none => exact startRests_send _ trivial
          | some key =>
              refine (Protocol.wp_bind ..).mpr (wp_startIdle (q := ⟨walletId, .checked⟩) (uses_tryCatch (uses_map
                (uses_await trivial (hsmConnect_uses.mono fun _ => SigningOp.startIdle))) fun _ => uses_pure _) trivial
                  (fun connected => ?_) fun _ => trivial)
              cases connected with
              | error e => exact wp_startRests (uses_ite (send_startIdle _)
                  (uses_bind (send_startIdle _) fun _ => hsmDisconnect_startIdle)) trivial
              | ok _ => exact startConnected_starts walletId key

theorem startFireblocksFree_wp (walletId xpub : String) :
    startProtocol.wp (startFireblocksFree walletId xpub) ⟨walletId, .checked⟩ (fun _ q => q.phase.Rests)
      fun _ q => q.phase.Rests := by
  have hclient : startClient.Uses StartIdle := by
    refine uses_bind getConfig_startIdle fun config => ?_
    split
    · exact uses_pure _
    · exact uses_bind (lib_startIdle _) fun _ => uses_pure _
  have hcheck : (checkFireblocksKey xpub).Uses StartIdle :=
    uses_tryCatch (uses_bind (uses_await trivial (lib_startIdle _)) fun _ => uses_bind (lib_startIdle _) fun _ =>
      uses_ite (uses_pure _) (uses_pure _)) fun _ => uses_pure _
  refine (Protocol.wp_bind ..).mpr (wp_startIdle (q := ⟨walletId, .checked⟩) getConfig_startIdle trivial
    (fun config => ?_) fun _ => trivial)
  refine (Protocol.wp_ite ..).mpr ⟨fun _ => ?_, fun _ => startRests_send _ trivial⟩
  refine (Protocol.wp_bind ..).mpr (wp_startIdle (q := ⟨walletId, .checked⟩) hclient trivial (fun _ => ?_)
    fun _ => trivial)
  refine (Protocol.wp_bind ..).mpr (wp_startIdle (q := ⟨walletId, .checked⟩) hcheck trivial (fun reply => ?_)
    fun _ => trivial)
  cases reply with
  | some reply => exact wp_startRests (uses_ask trivial) trivial
  | none => exact wp_startSigned walletId _ config none _ _

theorem startFireblocksWallet_starts (body : StartFireblocksBody) :
    StartEnds (startFireblocksWallet body) (StartGhost.enter (.startFireblocksWallet body)) := by
  unfold startFireblocksWallet
  cases hid : truthy body.walletId with
  | none => exact startEnds_send _ (StartGhost.enter_ends _)
  | some walletId =>
      rw [StartGhost.enter_of_startId (show (Request.startFireblocksWallet body).startId = some walletId from hid)]
      cases truthy body.xpub with
      | none => exact startEnds_send _ trivial
      | some xpub =>
          refine (Protocol.wp_bind ..).mpr ⟨.look _, fun w _ => ?_⟩
          cases w with
          | some w => exact startEnds_send (q := ⟨walletId, .done⟩) _ trivial
          | none => exact StartEnds.of_rests (startFireblocksFree_wp walletId xpub)

theorem stopWallet_wp (walletId : String) :
    startProtocol.wp (stopWallet walletId) ⟨walletId, .stopEntered⟩ (fun _ q => q.phase.Rests)
      fun _ q => q.phase.Rests := by
  have hhas : (hasHsmWallet walletId).Uses StartIdle := uses_ask trivial
  have hdelete (isHsm : Bool) : (if isHsm then deleteHsmWallet walletId else pure ()).Uses StartIdle :=
    uses_ite (uses_ask trivial) (uses_pure _)
  have hforget : (do
      deleteLogger walletId
      lockDelete walletId
      await (removeAllWalletProposals walletId)).Uses StartIdle :=
    uses_bind (uses_ask trivial) fun _ => uses_bind (uses_ask trivial) fun _ => uses_await trivial (uses_ask trivial)
  refine (Protocol.wp_bind ..).mpr ⟨.search _, fun w _ => ?_⟩
  cases w with
  | none => trivial
  | some w =>
      refine (Protocol.wp_bind ..).mpr (wp_startIdle (q := ⟨walletId, .stopping w⟩) hhas trivial
        (fun isHsm => ?_) fun _ => trivial)
      refine (Protocol.wp_bind ..).mpr (wp_startIdle (q := ⟨walletId, .stopping w⟩) (hdelete isHsm) trivial
        (fun _ => ?_) fun _ => trivial)
      refine (Protocol.wp_bind ..).mpr ((Protocol.wp_attempt ..).mpr
        ⟨.halt _ _, fun r _ => ⟨fun _ hr => ?_, fun e hr => ?_⟩⟩)
      · subst hr
        refine (Protocol.wp_bind ..).mpr ⟨.forget _ _, fun _ _ => ?_⟩
        exact wp_startRests (q := ⟨walletId, .done⟩) hforget trivial
      · subst hr
        trivial

theorem stop_wp (walletId : String) : StartEnds (stop walletId) ⟨walletId, .stopEntered⟩ := by
  refine StartEnds.of_rests ((Protocol.wp_bind ..).mpr (wp_awaitStart ?_))
  exact Protocol.wp_mono _ (stopWallet_wp walletId) (fun _ q hq => ⟨hq, startRests_send _ hq⟩) fun _ q hq => ⟨hq, hq⟩

/-- Starts and stops follow the protocol. -/
theorem starts_wp {req : Request} (h : req.ManagesWallets) : StartEnds req.handle (StartGhost.enter req) := by
  cases req with
  | start body => exact start_wp body
  | startHsmWallet body => exact startHsmWallet_starts body
  | startFireblocksWallet body => exact startFireblocksWallet_starts body
  | stop walletId => exact stop_wp walletId
  | _ => exact h.elim

end WalletHeadless
