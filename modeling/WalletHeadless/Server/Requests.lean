import WalletHeadless.Controllers.Proposals
import WalletHeadless.Controllers.Start
import WalletHeadless.Controllers.Swaps
import WalletHeadless.Server.World

/-!
# Requests and the service

* `Request`, `Request.handle`: the requests and their handlers;
* `Service`, `Service.Run`: the service as a system of handlers over the `world`;
* `Service.exec`: the run through given steps;
* `oneWallet`, `unstarted`, `arrives`, `goesOn`, `comes`, `proceeds`: where the concrete runs start, and their steps.
-/

namespace WalletHeadless

open Coop Js

inductive Request
  | simpleSendTx (req : Req SimpleSendBody)
  | sendTx (req : Req SendTxBody)
  | createToken (req : Req CreateTokenBody)
  | mintTokens (req : Req AuthorityBody)
  | meltTokens (req : Req AuthorityBody)
  | utxoConsolidation (req : Req ConsolidationBody)
  | createNft (req : Req CreateNftBody)
  | createNanoContract (req : Req NanoBody)
  | executeNanoContractMethod (req : Req NanoBody)
  | createOnChainBlueprint (req : Req BlueprintBody)
  | runTemplate (req : Req TemplateBody)
  | buildTemplate (req : Req TemplateBody)
  | p2shSignAndPush (req : Req SignAndPushBody)
  | swapSignAndPush (req : Req SwapBody)
  | unlockInputs (req : Req SwapBody)
  | buildTxProposal (req : Req TxProposalBody)
  | buildCreateTokenTxProposal (req : Req CreateTokenProposalBody)
  | buildMintTokensTxProposal (req : Req AuthorityProposalBody)
  | buildMeltTokensTxProposal (req : Req AuthorityProposalBody)
  | start (body : StartBody)
  | startHsmWallet (body : StartHsmBody)
  | startFireblocksWallet (body : StartFireblocksBody)
  | stop (walletId : String)
  | reloadConfig (rounds : Nat)
  | swapBuildTxProposal (req : Req SwapProposalBody)
  | signTxProposal (req : Req SwapSignBody)
  | fetchFromService (req : Req String)
  | listenedProposalList (req : Req Unit)
  | registerProposal (req : Req RegisterBody)
  | deleteListenedProposal (req : Req String)
  /-- A transaction handed to the signing method of an HSM wallet. -/
  | hsmSignTx (hsmKeyName : String) (tx : Transaction) (wallet : WalletRef)
deriving DecidableEq

namespace Request

def handle : Request → Async Unit
  | simpleSendTx req => WalletHeadless.simpleSendTx req
  | sendTx req => WalletHeadless.sendTx req
  | createToken req => WalletHeadless.createToken req
  | mintTokens req => WalletHeadless.mintTokens req
  | meltTokens req => WalletHeadless.meltTokens req
  | utxoConsolidation req => WalletHeadless.utxoConsolidation req
  | createNft req => WalletHeadless.createNft req
  | createNanoContract req => WalletHeadless.createNanoContract req
  | executeNanoContractMethod req => WalletHeadless.executeNanoContractMethod req
  | createOnChainBlueprint req => WalletHeadless.createOnChainBlueprint req
  | runTemplate req => WalletHeadless.runTemplate req
  | buildTemplate req => WalletHeadless.buildTemplate req
  | p2shSignAndPush req => WalletHeadless.p2shSignAndPush req
  | swapSignAndPush req => WalletHeadless.swapSignAndPush req
  | unlockInputs req => WalletHeadless.unlockInputs req
  | buildTxProposal req => WalletHeadless.buildTxProposal req
  | buildCreateTokenTxProposal req => WalletHeadless.buildCreateTokenTxProposal req
  | buildMintTokensTxProposal req => WalletHeadless.buildMintTokensTxProposal req
  | buildMeltTokensTxProposal req => WalletHeadless.buildMeltTokensTxProposal req
  | start body => WalletHeadless.start body
  | startHsmWallet body => WalletHeadless.startHsmWallet body
  | startFireblocksWallet body => WalletHeadless.startFireblocksWallet body
  | stop walletId => WalletHeadless.stop walletId
  | reloadConfig rounds => WalletHeadless.reloadConfig rounds
  | swapBuildTxProposal req => WalletHeadless.swapBuildTxProposal req
  | signTxProposal req => WalletHeadless.signTxProposal req
  | fetchFromService req => WalletHeadless.fetchFromService req
  | listenedProposalList req => WalletHeadless.listenedProposalList req
  | registerProposal req => WalletHeadless.registerProposal req
  | deleteListenedProposal req => WalletHeadless.deleteListenedProposal req
  | hsmSignTx hsmKeyName tx wallet => do
    let _ ← WalletHeadless.hsmSignTx hsmKeyName tx wallet
    return

/-- The wallet id and the wallet that the middleware found for a request. -/
def target : Request → Option (String × WalletRef)
  | simpleSendTx req => some (req.walletId, req.wallet)
  | sendTx req => some (req.walletId, req.wallet)
  | createToken req => some (req.walletId, req.wallet)
  | mintTokens req => some (req.walletId, req.wallet)
  | meltTokens req => some (req.walletId, req.wallet)
  | utxoConsolidation req => some (req.walletId, req.wallet)
  | createNft req => some (req.walletId, req.wallet)
  | createNanoContract req => some (req.walletId, req.wallet)
  | executeNanoContractMethod req => some (req.walletId, req.wallet)
  | createOnChainBlueprint req => some (req.walletId, req.wallet)
  | runTemplate req => some (req.walletId, req.wallet)
  | buildTemplate req => some (req.walletId, req.wallet)
  | p2shSignAndPush req => some (req.walletId, req.wallet)
  | swapSignAndPush req => some (req.walletId, req.wallet)
  | unlockInputs req => some (req.walletId, req.wallet)
  | buildTxProposal req => some (req.walletId, req.wallet)
  | buildCreateTokenTxProposal req => some (req.walletId, req.wallet)
  | buildMintTokensTxProposal req => some (req.walletId, req.wallet)
  | buildMeltTokensTxProposal req => some (req.walletId, req.wallet)
  | swapBuildTxProposal req => some (req.walletId, req.wallet)
  | signTxProposal req => some (req.walletId, req.wallet)
  | fetchFromService req => some (req.walletId, req.wallet)
  | listenedProposalList req => some (req.walletId, req.wallet)
  | registerProposal req => some (req.walletId, req.wallet)
  | deleteListenedProposal req => some (req.walletId, req.wallet)
  | _ => none

end Request

/-- The handlers in progress over what they share. -/
abbrev Service := Sys Op.Ans JsError Unit Server Request

abbrev Step := Label Op.Ans Request Outside

/-- `S` is reached from the state `s₀` by steps that meet `ok`. -/
abbrev Service.Run (ok : Service → Step → Prop) (s₀ : Server) (S : Service) : Prop :=
  Reach world Request.handle ok ⟨s₀, []⟩ S

/-- The service after the steps, when all of them meet `ok`. -/
def Service.exec (ok : Service → Step → Prop) [∀ S l, Decidable (ok S l)] (steps : List Step)
    (s₀ : Server) : Option Service :=
  Sys.exec world Request.handle ok steps ⟨s₀, []⟩

theorem Service.run_of_exec {ok : Service → Step → Prop} [∀ S l, Decidable (ok S l)] {steps : List Step}
    {s₀ : Server} {p : Service → Prop} [DecidablePred p]
    (h : (Service.exec ok steps s₀).any (fun S => p S) = true) : ∃ S, Service.Run ok s₀ S ∧ p S := by
  obtain ⟨S, hS, hp⟩ := (Option.any_eq_true _ _).mp h
  exact ⟨S, Reach.start.exec hS, of_decide_eq_true hp⟩

/-- The request that flow `i` serves. -/
def Service.request (S : Service) (i : Nat) : Option Request := S.procs[i]?.map Proc.req

/-- The wallet id of flow `i`. -/
def Service.walletId (S : Service) (i : Nat) : Option String :=
  ((S.request i).bind Request.target).map Prod.fst

/-- The wallet of flow `i`. -/
def Service.wallet (S : Service) (i : Nat) : Option WalletRef :=
  ((S.request i).bind Request.target).map Prod.snd

/-- The flow `i` has replied or thrown. -/
def Service.Ended (S : Service) (i : Nat) : Prop := ∀ p, S.procs[i]? = some p → p.rest.Ended

instance (S : Service) (i : Nat) : Decidable (S.Ended i) :=
  inferInstanceAs (Decidable (∀ p ∈ S.procs[i]?, p.rest.Ended))

/-! ## Steps of concrete runs -/

/-- A service with the wallet `0` under the id `"w"`. -/
def oneWallet (method : Option SigningMethod) : Server where
  config := some { network := "mainnet" }
  initializedWallets := Js.Map.empty.set "w" 0
  objects := [{ walletId := "w", creator := 0, running := true, externalTxSigningMethod := method }]

def utxo (n : Nat) : Utxo := ⟨"utxo", n⟩

def spending (hash : String) (n : Nat) : Transaction := { hash := hash, inputs := [{ hash := "utxo", index := n }] }

/-- A request comes, a flow goes on, and every call is granted. -/
def arrives (req : Request) (tx : Transaction) : Step := .spawn req fun _ => Op.granted tx

def goesOn (i : Nat) (tx : Transaction) : Step := .resume i fun _ => Op.granted tx

def withHsm (server : String) : Config :=
  { network := "mainnet", server := server, hsmHost := "host", hsmUsername := "user", hsmPassword := "pass" }

/-- A service without wallets. -/
def unstarted : Server where
  config := some (withHsm "")

def startsReadonly : Request := .start { walletId := some "w", xpubkey := some "xpub" }

def startsWithHsm : Request := .startHsmWallet { walletId := some "w", hsmKey := some "key" }

/-- A request comes, a flow goes on; no transaction is built. -/
def comes (req : Request) : Step := arrives req (spending "" 0)

def proceeds (i : Nat) : Step := goesOn i (spending "" 0)

/-- Flow `i` is told that the call has failed. -/
def fails (i : Nat) : Step := .resume i fun _ c => c.failed

/-- The configuration that is imported; every other call is granted. -/
def imported (config : Config) (_ : Nat) : (c : Op) → c.Ans
  | .settings .importConfig => .ok config
  | c => c.granted (spending "" 0)

def imports (i : Nat) (config : Config) : Step := .resume i (imported config)

end WalletHeadless
