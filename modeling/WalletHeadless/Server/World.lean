import WalletHeadless.Coop.System
import WalletHeadless.Server.Ops

/-!
# The process that the handlers share

`Server` is what the handlers share: the singletons of the program, the marks that `wallet-lib` keeps
on utxos, the HSM connection, and the history that the results speak of. The calls of the libraries are
answered by a proposal of the outside, which has to be one that the library can give.

* `Server.callOf`: what a call that waits does at once;
* `Server.performRegistry`, `Server.performWallet`, …: the answer of each kind of call and its effect;
* `Outside`, `Server.outside`: time, timers, and the utxos that `wallet-lib` picks and marks on its own;
* `world`.
-/

namespace WalletHeadless

open Coop Js Function

/-- A `HathorWallet` object: the start that created it, the configuration object it was started with, and the
starts that set its signing method. -/
structure HathorWallet where
  walletId : String
  creator : Nat
  configObject : Nat := 0
  running : Bool := false
  externalTxSigningMethod : Option SigningMethod := none
  setters : List Nat := []
deriving DecidableEq

/-- The utxos that `wallet-lib` has picked so far for a transaction being built. -/
structure Draft where
  wallet : WalletRef
  picks : List Utxo
  picking : Bool
deriving DecidableEq

/-- A transaction that has reached `runFromMining`. -/
structure Mined where
  flow : Nat
  wallet : WalletRef
  tx : Transaction
deriving DecidableEq

/-- A call of `hsm.disconnect`, with the flows whose connections were open. -/
structure Disconnect where
  flow : Nat
  connections : List Nat
deriving DecidableEq

/-- `walletIndices` gives the places of the wallets in the map, by which an iterator finds its way while the map
changes; a logger is the flow that has created it; `configs` are the configurations that were put in force, and
`replaced` those that a reload has put aside. `mining` has what was mined from a wallet, not what `/push-tx` mines without
one. -/
structure Server where
  started : Bool := false
  config : Option Config := none
  nextConfig : Nat := 1
  configs : List (Nat × Config) := []
  replaced : List (Nat × Config) := []
  hathorLib : LibCell → Option String := fun _ => none
  initializedWallets : Js.Map String WalletRef := .empty
  walletIndices : Js.Map String Nat := .empty
  nextIndex : Nat := 0
  hsmWalletIds : Js.Map String String := .empty
  walletLoggers : Js.Map String Nat := .empty
  SWAP_SERVICE_FEATURE_TOGGLE : Bool := false
  walletListenedProposals : Js.Map String ProposalsRef := .empty
  proposalMaps : List (Js.Map String ListenedProposal) := []
  objects : List HathorWallet := []
  locks : Locks := {}
  selected : List (WalletRef × Utxo) := []
  drafts : Nat → Option Draft := fun _ => none
  mining : List Mined := []
  connecting : List Nat := []
  connections : List Nat := []
  disconnects : List Disconnect := []
  wakes : Nat → Nat := fun _ => 0
  replies : List (Nat × Reply) := []

/-- What happens without a handler: time passes, a timer fires, `wallet-lib` picks a utxo for the
transaction of a flow, marks a utxo or unmarks it. -/
inductive Outside
  | advance (d : Nat)
  | fire (t : TimerId)
  | pick (flow : Nat) (utxo : Utxo)
  | mark (wallet : WalletRef) (utxo : Utxo)
  | unmark (wallet : WalletRef) (utxo : Utxo)
deriving DecidableEq

/-- Whether a library can give the answer: a transaction made from data spends what the data says. -/
def LibCall.gives : (c : LibCall) → Except JsError c.Result → Bool
  | .createTransactionFromData data, .ok tx => tx.utxos = data.utxos
  | .forever, _ => false
  | _, _ => true

namespace Server

/-! ## Locks and maps -/

/-- `getWalletLock`. -/
def walletLock (s : Server) (walletId : String) : LockRef × Locks :=
  if s.hsmWalletIds.has walletId then (.hsmLock, s.locks) else s.locks.get walletId

/-- `lockSendTx`. -/
def lockSendTx (s : Server) (i : Nat) (walletId : String) : Option UnlockFn × Locks :=
  (s.walletLock walletId).2.lockSendTxOn i (s.walletLock walletId).1

def performLock (i : Nat) (s : Server) : (c : LockCall) → c.Result × Locks
  | .getWalletLock walletId => s.walletLock walletId
  | .lockSendTx walletId => s.lockSendTx i walletId
  | .unlock u => ((), s.locks.callUnlock u)
  | .lockOn l ty => s.locks.lock l ty
  | .unlockOn l ty => ((), s.locks.unlock l ty)
  | .delete walletId => ((), s.locks.delete walletId)

def unavailableConfig : JsError := { kind := .UnavailableConfigError, message := "" }

/-- `initializedWallets.set(walletId, w)`. -/
def putWallet (s : Server) (walletId : String) (w : WalletRef) : Server :=
  { s with
    initializedWallets := s.initializedWallets.set walletId w
    walletIndices := if s.initializedWallets.has walletId then s.walletIndices else s.walletIndices.set walletId s.nextIndex
    nextIndex := s.nextIndex + 1 }

/-- `initializedWallets.delete(walletId)`. -/
def dropWallet (s : Server) (walletId : String) : Server :=
  { s with
    initializedWallets := s.initializedWallets.delete walletId
    walletIndices := s.walletIndices.delete walletId }

/-- The place of a wallet in the map. -/
def walletIndex (s : Server) (walletId : String) : Nat := (s.walletIndices.get walletId).getD 0

/-- The first wallet from the place `index` on, and the place after it. -/
def walletFrom (s : Server) (index : Nat) : Option (WalletRef × Nat) :=
  (s.initializedWallets.entries.find? fun e => index ≤ s.walletIndex e.1).map fun e =>
    (e.2, s.walletIndex e.1 + 1)

/-- `setExternalTxSigningMethod`, by flow `i`. -/
def setSigner (s : Server) (i : Nat) (w : WalletRef) (method : SigningMethod) : Server :=
  { s with objects := s.objects.modify w fun o =>
      { o with externalTxSigningMethod := some method, setters := i :: o.setters } }

/-- The constructor of `HathorWallet` may throw. -/
def performRegistry (i : Nat) (s : Server) : (c : RegistryCall) → c.Result → c.Result × Server
  | .getConfig, _ => (s.config.elim (.error unavailableConfig) .ok, s)
  | .getWallet walletId, _ => (s.initializedWallets.get walletId, s)
  | .setWallet walletId w, _ => ((), s.putWallet walletId w)
  | .deleteWallet walletId, _ => ((), s.dropWallet walletId)
  | .hasHsmWallet walletId, _ => (s.hsmWalletIds.has walletId, s)
  | .setHsmWallet walletId key, _ => ((), { s with hsmWalletIds := s.hsmWalletIds.set walletId key })
  | .deleteHsmWallet walletId, _ => ((), { s with hsmWalletIds := s.hsmWalletIds.delete walletId })
  | .newWallet .., .error e => (.error e, s)
  | .newWallet walletId _ config, .ok _ =>
    (.ok s.objects.length,
      { s with objects := s.objects ++ [{ walletId := walletId, creator := i, configObject := config.object }] })
  | .setExternalTxSigningMethod w method, _ => ((), s.setSigner i w method)
  | .getTxSignatureMethod w, _ => ((s.objects[w]?).bind HathorWallet.externalTxSigningMethod, s)
  | .setLogger walletId, _ => ((), { s with walletLoggers := s.walletLoggers.set walletId i })
  | .deleteLogger walletId, _ => ((), { s with walletLoggers := s.walletLoggers.delete walletId })
  | .nextWallet index, _ => (s.walletFrom index, s)
  | .walletIds, _ => (s.initializedWallets.keys, s)

/-- Every `import` of the configuration returns a new object, and a setter of `wallet-lib` may throw. -/
def performSettings (i : Nat) (s : Server) : (c : SettingsCall) → c.Result → c.Result × Server
  | .started, _ => (s.started, s)
  | .setStarted, _ => ((), { s with started := true })
  | .config, _ => (s.config, s)
  | .setConfig none, _ =>
    ((), { s with config := none, replaced := s.config.elim s.replaced fun config => (i, config) :: s.replaced })
  | .setConfig (some config), _ => ((), { s with config := some config, configs := (i, config) :: s.configs })
  | .importConfig, .error e => (.error e, s)
  | .importConfig, .ok config =>
    (.ok { config with object := s.nextConfig }, { s with nextConfig := s.nextConfig + 1 })
  | .setLib _ _, .error e => (.error e, s)
  | .setLib cell value, .ok _ => (.ok (), { s with hathorLib := update s.hathorLib cell (some value) })

/-- `addListenedProposal`, by flow `i`. -/
def addListenedProposal (s : Server) (i : Nat) (walletId proposalId password : String) : Server :=
  match s.walletListenedProposals.get walletId with
  | some m =>
    { s with proposalMaps := s.proposalMaps.modify m fun map => map.set proposalId ⟨proposalId, password, i⟩ }
  | none =>
    { s with
      walletListenedProposals := s.walletListenedProposals.set walletId s.proposalMaps.length
      proposalMaps := s.proposalMaps ++ [Js.Map.empty.set proposalId ⟨proposalId, password, i⟩] }

/-- `removeListenedProposal`. -/
def removeListenedProposal (s : Server) (walletId proposalId : String) : Server :=
  match s.walletListenedProposals.get walletId with
  | some m => { s with proposalMaps := s.proposalMaps.modify m fun map => map.delete proposalId }
  | none => s

def performProposals (i : Nat) (s : Server) : (c : ProposalsCall) → c.Result × Server
  | .featureToggle => (s.SWAP_SERVICE_FEATURE_TOGGLE, s)
  | .getProposals walletId => (s.walletListenedProposals.get walletId, s)
  | .getProposal m proposalId => ((s.proposalMaps[m]?).bind fun map => map.get proposalId, s)
  | .proposalIds m => ((s.proposalMaps[m]?).elim [] Js.Map.keys, s)
  | .addProposal walletId proposalId password => ((), s.addListenedProposal i walletId proposalId password)
  | .removeProposal walletId proposalId => ((), s.removeListenedProposal walletId proposalId)
  | .deleteProposals walletId =>
    ((), { s with walletListenedProposals := s.walletListenedProposals.delete walletId })

/-! ## `wallet-lib` -/

/-- The utxos picked for the transaction of flow `i`. -/
def picks (s : Server) (i : Nat) : List Utxo := (s.drafts i).elim [] Draft.picks

def startDraft (s : Server) (i : Nat) (w : WalletRef) : Server :=
  { s with drafts := update s.drafts i (some ⟨w, [], true⟩) }

def endDraft (s : Server) (i : Nat) : Server :=
  { s with drafts := update s.drafts i ((s.drafts i).map fun d => { d with picking := false }) }

def markAll (s : Server) (w : WalletRef) (us : List Utxo) : Server :=
  { s with selected := us.map (fun u => (w, u)) ++ s.selected }

def unmark (s : Server) (w : WalletRef) (u : Utxo) : Server :=
  { s with selected := s.selected.filter fun x => x ≠ (w, u) }

def setRunning (s : Server) (w : WalletRef) (b : Bool) : Server :=
  { s with objects := s.objects.modify w fun o => { o with running := b } }

/-- The inputs of the transaction were given by the caller or picked for it. -/
def Prepared (s : Server) (i : Nat) (inputs : List Utxo) (tx : Transaction) : Prop :=
  ∀ u ∈ tx.utxos, u ∈ inputs ∨ u ∈ s.picks i

instance (s : Server) (i : Nat) (inputs : List Utxo) (tx : Transaction) : Decidable (s.Prepared i inputs tx) :=
  inferInstanceAs (Decidable (∀ u ∈ tx.utxos, u ∈ inputs ∨ u ∈ s.picks i))

/-- A `SendTransaction` that `wallet-lib` can answer to `b`. -/
def Built (s : Server) (i : Nat) (b : Build) (st : SendTransaction) : Prop :=
  st.inputs = b.inputs ∧ ∀ tx ∈ st.transaction, s.Prepared i b.inputs tx

instance (s : Server) (i : Nat) (b : Build) (st : SendTransaction) : Decidable (s.Built i b st) :=
  inferInstanceAs (Decidable (st.inputs = b.inputs ∧ ∀ tx ∈ st.transaction, s.Prepared i b.inputs tx))

def performWallet (i : Nat) (s : Server) : (c : WalletCall) → Except JsError c.Result →
    Option (Except JsError c.Result × Server)
  | .build _ _, .error e => some (.error e, s.endDraft i)
  | .build _ b, .ok st => if s.Built i b st then some (.ok st, s.endDraft i) else none
  | .prepareTx _ _, .error e => some (.error e, s.endDraft i)
  | .prepareTx _ st, .ok tx => if s.Prepared i st.inputs tx then some (.ok tx, s.endDraft i) else none
  | .updateOutputSelected _ _, .error e => some (.error e, s)
  | .updateOutputSelected w tx, .ok _ => some (.ok (), s.markAll w tx.utxos)
  | .addSend .., .error e => some (.error e, s)
  | .addSend w _ _ _ _ _ mark, .ok us => some (.ok us, if mark then s.markAll w us else s)
  | .markUtxoSelected .., .error e => some (.error e, s)
  | .markUtxoSelected w u mark _, .ok _ => some (.ok (), if mark then s.markAll w [u] else s.unmark w u)
  | .runFromMining _ _, r => some (r, s)
  | .start _, .error e => some (.error e, s)
  | .start w, .ok _ => some (.ok (), s.setRunning w true)
  | .stop _, .error e => some (.error e, s)
  | .stop w, .ok _ => some (.ok (), s.setRunning w false)

/-! ## The HSM connection -/

def performHsm (i : Nat) (s : Server) : HsmCall → Except JsError Unit → Except JsError Unit × Server
  | .connect .., .error e => (.error e, { s with connecting := s.connecting.erase i })
  | .connect .., .ok _ =>
    (.ok (), { s with connecting := s.connecting.erase i, connections := i :: s.connections })
  | .disconnect, .error e => (.error e, s)
  | .disconnect, .ok _ => (.ok (), { s with connections := s.connections.tail })

/-! ## The world -/

/-- What a call that waits does before its answer. -/
def callOf (i : Nat) (c : Op) (s : Server) : Server :=
  match c with
  | .wallet (.build w _) => s.startDraft i w
  | .wallet (.prepareTx w _) => s.startDraft i w
  | .wallet (.runFromMining w tx) => { s with mining := ⟨i, w, tx⟩ :: s.mining }
  | .hsm (.connect ..) => { s with connecting := i :: s.connecting }
  | .hsm .disconnect => { s with disconnects := ⟨i, s.connections⟩ :: s.disconnects }
  | .sleep ms => { s with wakes := update s.wakes i (s.locks.now + ms) }
  | _ => s

def performOp (i : Nat) (c : Op) (r : c.Ans) (s : Server) : Option (c.Ans × Server) :=
  match c, r with
  | .lock c, _ => some ((s.performLock i c).1, { s with locks := (s.performLock i c).2 })
  | .registry c, r => some (s.performRegistry i c r)
  | .settings c, r => some (s.performSettings i c r)
  | .proposals c, _ => some (s.performProposals i c)
  | .wallet c, r => s.performWallet i c r
  | .hsm c, r => some (s.performHsm i c r)
  | .lib c, r => if c.gives r then some (r, s) else none
  | .sleep _, _ => if s.wakes i ≤ s.locks.now then some ((), s) else none
  | .tick, _ => some ((), s)
  | .send reply, _ => some ((), { s with replies := (i, reply) :: s.replies })

def addPick (s : Server) (i : Nat) (d : Draft) (u : Utxo) : Server :=
  { s with drafts := update s.drafts i (some { d with picks := u :: d.picks }) }

/-- `wallet-lib` picks only utxos that are not marked. -/
def pick (s : Server) (i : Nat) (u : Utxo) : Option Server :=
  match s.drafts i with
  | some d =>
    if d.picking ∧ (d.wallet, u) ∉ s.selected then some (s.addPick i d u) else none
  | none => none

def outside (e : Outside) (s : Server) : Option Server :=
  match e with
  | .advance d => some { s with locks := s.locks.advance d }
  | .fire t => (s.locks.fire t).map fun L => { s with locks := L }
  | .pick i u => s.pick i u
  | .mark w u => some (s.markAll w [u])
  | .unmark w u => some (s.unmark w u)

end Server

/-- Whether a call is an `await`. -/
def Op.waits : Op → Bool
  | .wallet _ | .hsm _ | .sleep _ | .tick | .settings .importConfig => true
  | .lib c => c.waits
  | _ => false

def world : World Op.Ans Server Outside where
  waits := Op.waits
  call := Server.callOf
  perform := Server.performOp
  ext := Server.outside

end WalletHeadless
