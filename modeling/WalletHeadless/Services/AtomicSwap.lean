import WalletHeadless.Js.Text
import WalletHeadless.Server.Ops

/-!
# `atomic-swap.service.js`

* `serviceCreate`, `serviceUpdate`, `serviceGet`: the requests to the swap service;
* `getListenedProposals`, `addListenedProposal`, `removeListenedProposal`: the proposals of a wallet.
-/

namespace WalletHeadless

open Coop Js

/-! ## The proposals of a wallet -/

/-- `getListenedProposals`: none for a new map. -/
def getListenedProposals (walletId : String) : Async (Option ProposalsRef) := getProposals walletId

/-- What `has` and `get` read of a map that `getListenedProposals` has returned. -/
def listenedProposal (m : Option ProposalsRef) (proposalId : String) : Async (Option ListenedProposal) :=
  match m with
  | none => pure none
  | some m => getProposal m proposalId

def addListenedProposal (walletId proposalId password : String) : Async Unit :=
  addProposal walletId proposalId password

def removeListenedProposal (walletId proposalId : String) : Async Unit := removeProposal walletId proposalId

/-! ## The service -/

def serviceCreate (walletId partialTx : String) (password : Option String) : Async String :=
  if partialTx = "" then throw { message := "Invalid PartialTx" }
  else match password.filter fun password => 3 ≤ Js.length password with
    | none => throw { message := "Password must have at least 3 characters" }
    | some password => do
      let created ← swapCreate partialTx password
      if created.success then do
        await (addListenedProposal walletId created.id password)
        return created.id
      else throw { message := "Unable to create the proposal on the Atomic Swap Service" }

def serviceUpdate (updateParams : SwapUpdate) : Async Unit :=
  if updateParams.partialTx = "" then throw { message := "Missing PartialTx" }
  else if updateParams.password = "" then throw { message := "Missing password" }
  else do
    let success ← swapUpdate updateParams
    if success then return
    else throw { kind := .SwapServiceError, message := "Unable to update the proposal on the Atomic Swap Service" }

def serviceGet (proposalId : String) (password : Option String) : Async SwapProposal :=
  if proposalId = "" then throw { message := "Invalid proposalId" }
  else match truthy password with
    | none => throw { message := "Invalid password" }
    | some password => do
      match ← swapGet proposalId password with
      | none => throw { message := "Unable to fetch the proposal from the Atomic Swap Service" }
      | some proposal => return proposal

end WalletHeadless
