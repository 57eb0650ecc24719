import WalletHeadless.Server.Requests
import WalletHeadless.Services.Asks

/-!
# The candidates of a swap proposal

`buildTxProposal` of atomic swaps hands the utxos that a request chooses to `addSend`, as far as the wallet has them and
can use them.

* `Holdings`: what the wallet answers about transactions, utxos and addresses;
* `Holdings.Candidates`: what is asked of the list that `addSend` gets;
* `Holdings.offer`: the list that it gets; `offer_candidates_iff`;
* `swap_candidates_iff`: what every run of the handler hands over.
-/

namespace WalletHeadless

open Coop Js
open Prog (uses_ask)

/-- What a wallet knows while a request is served. -/
structure Holdings where
  history : String → Option (List TxOut)
  usable : Utxo → Bool
  addressIndex : Option String → Option Nat
  addressPath : Nat → String

def OfferedUtxo.utxo (o : OfferedUtxo) : Utxo := ⟨o.txId, o.index⟩

namespace Holdings

/-- The calls on the wallet `w` are answered by these, where they do not fail. -/
def Tells (S : Holdings) (w : WalletRef) : (c : Op) → c.Ans → Prop
  | .lib (.getTx w' txId), .ok tx => w' = w → tx = S.history txId
  | .lib (.canUseUtxo w' u), .ok usable => w' = w → usable = S.usable u
  | .lib (.getAddressIndex w' address), .ok index => w' = w → index = S.addressIndex address
  | .lib (.getAddressPathForIndex w' index), .ok path => w' = w → path = S.addressPath index
  | _, _ => True

def output (S : Holdings) (u : Utxo) : Option TxOut := (S.history u.txId).bind fun outputs => outputs[u.index]?

/-- The output is in the history and can be used. -/
def available (S : Holdings) (u : Utxo) : Bool := S.usable u && (S.output u).isSome

/-- The index of the address that owns the output. -/
def ownerIndex (S : Holdings) (u : Utxo) : Option Nat := (S.output u).bind fun txout => S.addressIndex txout.address

/-- A candidate says of its output what the history says. -/
structure Describes (S : Holdings) (o : OfferedUtxo) (txout : TxOut) : Prop where
  value : o.value = txout.value
  tokenId : o.tokenId = txout.token
  timelock : o.timelock = txout.timelock
  address : o.address = txout.address
  mint : o.authorities.testBit 0 = txout.isMint
  melt : o.authorities.testBit 1 = txout.isMelt
  noOther : o.authorities < 4
  path : ∀ index, S.addressIndex txout.address = some index → o.addressPath = S.addressPath index

/-- What is asked of the candidates for the utxos that a request chooses. -/
structure Candidates (S : Holdings) (requested : List Utxo) (offered : List OfferedUtxo) : Prop where
  once : (offered.map OfferedUtxo.utxo).Nodup
  exactly : ∀ u, u ∈ offered.map OfferedUtxo.utxo ↔ u ∈ requested ∧ S.available u = true
  inOrder : (offered.map OfferedUtxo.utxo).Sublist requested
  describes : ∀ o ∈ offered, ∃ txout, S.output o.utxo = some txout ∧ S.Describes o txout

/-- No utxo that can be used is chosen twice or owned by the first address. -/
def OnceNotFirst (S : Holdings) (requested : List Utxo) : Prop :=
  (requested.filter S.available).Nodup ∧ ∀ u ∈ requested, S.available u = true → S.ownerIndex u ≠ some 0

instance (S : Holdings) (requested : List Utxo) : Decidable (S.OnceNotFirst requested) :=
  inferInstanceAs (Decidable (_ ∧ ∀ u ∈ requested, S.available u = true → S.ownerIndex u ≠ some 0))

/-! ## The list that is built -/

def offeredUtxo (S : Holdings) (u : Utxo) (txout : TxOut) : OfferedUtxo :=
  ⟨u.txId, u.index, txout.value, txout.address, txout.timelock, txout.token, authoritiesOf txout,
    (((S.addressIndex txout.address).filter (· ≠ 0)).map S.addressPath).getD ""⟩

def offer (S : Holdings) (requested : List Utxo) : List OfferedUtxo :=
  requested.filterMap fun u => if S.usable u then (S.output u).map (S.offeredUtxo u) else none

variable {S : Holdings}

theorem offer_cons_of_usable {u : Utxo} {us : List Utxo} {txout : TxOut} (hu : S.usable u = true)
    (hout : S.output u = some txout) : S.offer (u :: us) = S.offeredUtxo u txout :: S.offer us := by
  simp [offer, hu, hout]

theorem offer_cons_of_not_available {u : Utxo} {us : List Utxo} (h : S.available u = false) :
    S.offer (u :: us) = S.offer us := by
  unfold available at h
  cases hu : S.usable u with
  | false => simp [offer, hu]
  | true =>
      have hout : S.output u = none := by simpa [hu] using h
      simp [offer, hout]

theorem map_utxo_offer (requested : List Utxo) :
    (S.offer requested).map OfferedUtxo.utxo = requested.filter S.available := by
  induction requested with
  | nil => rfl
  | cons u us ih =>
      cases h : S.available u with
      | false => rw [offer_cons_of_not_available h, ih, List.filter_cons_of_neg (by simp [h])]
      | true =>
          obtain ⟨hu, hout⟩ := Bool.and_eq_true_iff.mp h
          obtain ⟨txout, hout⟩ := Option.isSome_iff_exists.mp hout
          rw [offer_cons_of_usable hu hout, List.map_cons, ih, List.filter_cons_of_pos h]
          rfl

theorem mem_offer {requested : List Utxo} {o : OfferedUtxo} (h : o ∈ S.offer requested) :
    ∃ txout, S.output o.utxo = some txout ∧ o = S.offeredUtxo o.utxo txout := by
  obtain ⟨u, -, hu⟩ := List.mem_filterMap.mp h
  obtain ⟨-, hu⟩ := Option.ite_none_right_eq_some.mp hu
  obtain ⟨txout, hout, rfl⟩ := Option.map_eq_some_iff.mp hu
  exact ⟨txout, hout, rfl⟩

theorem authoritiesOf_bits (txout : TxOut) :
    (authoritiesOf txout).testBit 0 = txout.isMint ∧ (authoritiesOf txout).testBit 1 = txout.isMelt ∧
      authoritiesOf txout < 4 := by
  unfold authoritiesOf
  cases txout.isMint <;> cases txout.isMelt <;> decide

/-- A candidate describes its output, unless the first address owns it. -/
theorem offeredUtxo_describes_iff (hpath : S.addressPath 0 ≠ "") {u : Utxo} {txout : TxOut} :
    S.Describes (S.offeredUtxo u txout) txout ↔ S.addressIndex txout.address ≠ some 0 := by
  obtain ⟨hmint, hmelt, hlt⟩ := authoritiesOf_bits txout
  constructor
  · intro h hzero
    have hempty : (S.offeredUtxo u txout).addressPath = "" := by
      rw [offeredUtxo, hzero]
      rfl
    exact hpath ((h.path 0 hzero).symm.trans hempty)
  · intro hzero
    refine ⟨rfl, rfl, rfl, rfl, hmint, hmelt, hlt, fun index hindex => ?_⟩
    have hpos : index ≠ 0 := fun h => hzero (h ▸ hindex)
    rw [offeredUtxo, hindex, Option.filter_some, if_pos (decide_eq_true hpos)]
    rfl

theorem offer_candidates_iff (hpath : S.addressPath 0 ≠ "") (requested : List Utxo) :
    S.Candidates requested (S.offer requested) ↔ S.OnceNotFirst requested := by
  constructor
  · intro h
    have honce := h.once
    rw [map_utxo_offer] at honce
    refine ⟨honce, fun u hu havailable howner => ?_⟩
    obtain ⟨o, ho, rfl⟩ := List.mem_map.mp ((h.exactly u).mpr ⟨hu, havailable⟩)
    obtain ⟨txout, hout, heq⟩ := mem_offer ho
    obtain ⟨txout', hout', hdescribes⟩ := h.describes o ho
    obtain rfl : txout' = txout := Option.some.inj (hout'.symm.trans hout)
    rw [heq] at hdescribes
    refine (offeredUtxo_describes_iff hpath).mp hdescribes ?_
    rwa [ownerIndex, hout] at howner
  · rintro ⟨honce, hfirst⟩
    refine ⟨by rwa [map_utxo_offer], fun u => ?_, ?_, fun o ho => ?_⟩
    · rw [map_utxo_offer, List.mem_filter]
    · rw [map_utxo_offer]
      exact List.filter_sublist
    · obtain ⟨txout, hout, heq⟩ := mem_offer ho
      have hmem : o.utxo ∈ requested.filter S.available := by
        rw [← map_utxo_offer]
        exact List.mem_map_of_mem ho
      obtain ⟨hu, havailable⟩ := List.mem_filter.mp hmem
      refine ⟨txout, hout, ?_⟩
      rw [heq]
      refine (offeredUtxo_describes_iff hpath).mpr fun hzero => hfirst o.utxo hu havailable ?_
      rw [ownerIndex, hout]
      exact hzero

end Holdings

/-! ## The handler -/

/-- A call gives a proposal no other candidates. -/
def Offers (offered : List OfferedUtxo) : Op → Prop
  | .wallet (.addSend _ _ _ _ utxos _ _) => utxos = offered
  | _ => True

section
variable {S : Holdings} {w : WalletRef} {offered : List OfferedUtxo}

/-- Answers of these, for a program that gives a proposal no other candidates. -/
def Holdings.proposing (S : Holdings) (w : WalletRef) (offered : List OfferedUtxo) : Protocol Op.Ans Unit where
  allows _ := Offers offered
  may _ := S.Tells w
  next _ _ _ := ()

theorem wp_lib_proposing {c : LibCall} {post : c.Result → Unit → Prop}
    (h : ∀ a, S.Tells w (.lib c) (.ok a) → post a ()) :
    (S.proposing w offered).wp (lib c) () post fun _ _ => True := by
  refine (Protocol.wp_attempt ..).mpr ⟨trivial, fun r hr => ⟨fun a ha => ?_, fun _ _ => trivial⟩⟩
  subst ha
  exact h a hr

theorem wp_offeredUtxos (requested : List Utxo) :
    (S.proposing w offered).wp (offeredUtxos w requested) () (fun us _ => us = S.offer requested)
      fun _ _ => True := by
  induction requested with
  | nil => rfl
  | cons u us ih =>
      refine (Protocol.wp_bind ..).mpr (wp_lib_proposing fun tx htx => ?_)
      have htx : tx = S.history u.txId := htx rfl
      cases tx with
      | none =>
          have hout : S.available u = false := by simp [Holdings.available, Holdings.output, ← htx]
          rwa [Holdings.offer_cons_of_not_available hout]
      | some outputs =>
          refine (Protocol.wp_bind ..).mpr (wp_lib_proposing fun usable husable => ?_)
          have husable : usable = S.usable u := husable rfl
          refine (Protocol.wp_ite ..).mpr ⟨fun h => ?_, fun h => ?_⟩
          · cases hout : outputs[u.index]? with
            | none => trivial
            | some txout =>
                have houtput : S.output u = some txout := by rw [Holdings.output, ← htx, Option.bind_some, hout]
                refine (Protocol.wp_bind ..).mpr (wp_lib_proposing fun index hindex => ?_)
                have hindex : index = S.addressIndex txout.address := hindex rfl
                rw [Holdings.offer_cons_of_usable (husable ▸ h) houtput, Holdings.offeredUtxo, ← hindex]
                have hrest : ∀ o : OfferedUtxo, (S.proposing w offered).wp (do
                    let rest ← offeredUtxos w us
                    return o :: rest) () (fun us' _ => us' = o :: S.offer us) fun _ _ => True := fun o =>
                  (Protocol.wp_bind ..).mpr (Protocol.wp_mono _ ih (fun _ _ h => congrArg (o :: ·) h) fun _ _ _ => trivial)
                refine (Protocol.wp_bind ..).mpr ?_
                cases index.filter (· ≠ 0) with
                | none => exact hrest _
                | some i =>
                    refine wp_lib_proposing fun path hpath => ?_
                    obtain rfl : path = S.addressPath i := hpath rfl
                    exact hrest _
          · have hout : S.available u = false := by simp [Holdings.available, ← husable, eq_false_of_ne_true h]
            rwa [Holdings.offer_cons_of_not_available hout]

theorem wp_chosenUtxos (utxos : Option (List Utxo)) :
    (S.proposing w offered).wp (chosenUtxos w utxos) () (fun us _ => us = S.offer (utxos.getD []))
      fun _ _ => True := by
  unfold chosenUtxos
  cases utxos.getD [] with
  | nil => rfl
  | cons u us =>
      refine (Protocol.wp_bind ..).mpr (Protocol.wp_mono _ (wp_offeredUtxos (u :: us)) (fun offered _ h => ?_)
        fun _ _ _ => trivial)
      rw [← h]
      cases offered with
      | nil => trivial
      | cons o os => rfl

/-! ### What comes after the candidates -/

theorem addSends_offers (proposal : String) (changeAddress : Option String) (mark : Bool) (sends : List TokenToSend) :
    (addSends w proposal offered changeAddress mark sends).Uses (Offers offered) := by
  induction sends with
  | nil => exact uses_pure _
  | cons send sends ih =>
      have hadd : Offers offered (.wallet (.addSend w proposal ((truthy send.token).getD NATIVE_TOKEN_UID) send.value
        offered changeAddress mark)) := rfl
      exact uses_bind (uses_bind (uses_ask hadd).attempt fun _ => uses_pure _) fun _ => ih

theorem lib_offers (c : LibCall) : (lib c).Uses (Offers offered) := (uses_ask (c := Op.lib c) trivial).attempt

theorem addReceives_offers (proposal : String) (receives : List TokenToReceive) :
    (addReceives proposal receives).Uses (Offers offered) := by
  induction receives with
  | nil => exact uses_pure _
  | cons receive receives ih => exact uses_bind (lib_offers _) fun _ => ih

theorem serviceCreate_offers (walletId partialTx : String) (password : Option String) :
    (serviceCreate walletId partialTx password).Uses (Offers offered) := by
  refine uses_ite (uses_throwThe _) ?_
  split
  · exact uses_throwThe _
  · refine uses_bind (lib_offers _) fun created => uses_ite ?_ (uses_throwThe _)
    exact uses_bind (uses_await trivial (uses_ask trivial)) fun _ => uses_pure _

theorem updateProposal_offers (walletId proposalId : String) {params : String → Async SwapUpdate}
    (hparams : ∀ password, (params password).Uses (Offers offered)) :
    (updateProposal walletId proposalId params).Uses (Offers offered) := by
  have hupdate (updateParams : SwapUpdate) : (serviceUpdate updateParams).Uses (Offers offered) :=
    uses_ite (uses_throwThe _) (uses_ite (uses_throwThe _) (uses_bind (lib_offers _) fun _ =>
      uses_ite (uses_pure _) (uses_throwThe _)))
  have hlistened (m : Option ProposalsRef) : (listenedProposal m proposalId).Uses (Offers offered) := by
    cases m with
    | none => exact uses_pure _
    | some m => exact uses_ask trivial
  refine uses_bind (uses_await trivial (uses_ask trivial)) fun m => uses_bind (hlistened m) fun requested => ?_
  split
  · exact uses_pure _
  · exact uses_bind (hparams _) fun _ => uses_bind (uses_await trivial (hupdate _)) fun _ => uses_pure _

theorem tellService_offers (walletId proposal : String) (serviceParams : ServiceParams) :
    (tellService walletId proposal serviceParams).Uses (Offers offered) := by
  refine uses_bind (uses_ask trivial) fun toggle => uses_ite (uses_ite ?_ ?_) (uses_pure _)
  · exact uses_bind (lib_offers _) fun _ => uses_bind (uses_await trivial (serviceCreate_offers _ _ _)) fun _ =>
      uses_pure _
  · split
    · exact uses_pure _
    · exact uses_bind (updateProposal_offers _ _ fun _ => uses_bind (lib_offers _) fun _ => uses_pure _) fun _ =>
        uses_pure _

theorem completeProposal_offers (req : Req SwapProposalBody) (proposal : String) (sends : List TokenToSend) :
    (completeProposal req proposal offered sends).Uses (Offers offered) := by
  refine uses_tryCatch (uses_bind (addSends_offers _ _ _ _) fun _ => uses_bind ?_ fun _ =>
    uses_bind (tellService_offers _ _ _) fun told => ?_) fun _ => uses_ask trivial
  · split
    · exact uses_throwThe _
    · exact addReceives_offers _ _
  · split
    · exact uses_ask trivial
    · exact uses_bind (lib_offers _) fun _ => uses_bind (lib_offers _) fun _ => uses_ask trivial

theorem proposing_uses {α : Type} {p : Async α} (hp : p.Uses (Offers offered)) :
    (S.proposing w offered).wp p () (fun _ _ => True) fun _ _ => True :=
  hp.wp_inv (fun _ _ h _ => ⟨h, fun _ => trivial⟩) trivial

end

/-- The handler gives a proposal the utxos that the wallet has to offer. -/
theorem swapBuildTxProposal_offers (S : Holdings) (req : Req SwapProposalBody) :
    (S.proposing req.wallet (S.offer (req.body.send.utxos.getD []))).wp (swapBuildTxProposal req) ()
      (fun _ _ => True) fun _ _ => True := by
  unfold swapBuildTxProposal validated
  split
  · exact proposing_uses (uses_ask trivial)
  · split
    · trivial
    · refine (Protocol.wp_bind ..).mpr ((Protocol.wp_orThrow ..).mpr ⟨fun _ _ => ?_, fun _ _ => trivial⟩)
      refine (Protocol.wp_ite ..).mpr ⟨fun _ => proposing_uses (uses_ask trivial), fun _ => ?_⟩
      refine (Protocol.wp_bind ..).mpr (Protocol.wp_mono _ (proposing_uses ?_) (fun proposal _ _ => ?_)
        fun _ _ h => h)
      · refine uses_tryCatch (uses_map ?_) fun _ => uses_pure _
        split
        · exact lib_offers _
        · exact lib_offers _
      · split
        · exact proposing_uses (uses_ask trivial)
        · refine (Protocol.wp_bind ..).mpr ((Protocol.wp_tryCatch ..).mpr ((Protocol.wp_map ..).mpr ?_))
          refine Protocol.wp_mono _ (wp_chosenUtxos _) (fun utxos _ h => ?_) fun _ _ _ =>
            proposing_uses (uses_ask trivial)
          subst h
          exact proposing_uses (completeProposal_offers _ _ _)

/-- The candidates that `addSend` gets are as they should be exactly when no utxo that can be used is chosen twice or owned
by the first address. -/
theorem swap_candidates_iff (S : Holdings) (hpath : S.addressPath 0 ≠ "") (req : Req SwapProposalBody) {log : Log}
    {p : Async Unit} (hrun : Steps (swapBuildTxProposal req) log p)
    (htold : ∀ e ∈ log, S.Tells req.wallet e.1 e.2) {w : WalletRef} {proposal token : String} {value : Nat}
    {offered : List OfferedUtxo} {changeAddress : Option String} {mark : Bool}
    (hadd : ∃ e ∈ log, e.1 = .wallet (.addSend w proposal token value offered changeAddress mark)) :
    S.Candidates (req.body.send.utxos.getD []) offered ↔ S.OnceNotFirst (req.body.send.utxos.getD []) := by
  obtain ⟨e, he, hcall⟩ := hadd
  obtain ⟨t, u, rfl⟩ := List.append_of_mem he
  have htold : (S.proposing req.wallet (S.offer (req.body.send.utxos.getD []))).Told () t :=
    Protocol.told_of_mem _ (fun e he _ => htold e (List.mem_append_left _ he)) ()
  have hoffers := Protocol.wp_allows _ hrun (swapBuildTxProposal_offers S req) htold
  have hoffers : Offers (S.offer (req.body.send.utxos.getD [])) e.1 := hoffers
  rw [hcall] at hoffers
  obtain rfl : offered = S.offer (req.body.send.utxos.getD []) := hoffers
  exact Holdings.offer_candidates_iff hpath _

/-! A wallet with two outputs in its history: the first address owns one, the third the other. -/

def twoOutputs : Holdings where
  history txId := if txId = "tx" then some [⟨10, some "first", none, NATIVE_TOKEN_UID, false, false⟩,
    ⟨20, some "third", none, NATIVE_TOKEN_UID, false, false⟩] else none
  usable u := u.txId = "tx"
  addressIndex address := if address = some "first" then some 0 else if address = some "third" then some 2 else none
  addressPath index := s!"m/44\x27/280\x27/0\x27/0/{index}"

/-- The answers of a wallet that holds these, where every other call is granted. -/
def Holdings.answers (S : Holdings) : (c : Op) → c.Ans
  | .lib (.getTx _ txId) => .ok (S.history txId)
  | .lib (.canUseUtxo _ u) => .ok (S.usable u)
  | .lib (.getAddressIndex _ address) => .ok (S.addressIndex address)
  | .lib (.getAddressPathForIndex _ index) => .ok (S.addressPath index)
  | c => c.granted { hash := "", inputs := [] }

theorem Holdings.tells_answers (S : Holdings) (w : WalletRef) (c : Op) : S.Tells w c (S.answers c) := by
  cases c with
  | lib c => cases c <;> first | exact fun _ => rfl | trivial
  | _ => trivial

/-- A request that sends one of HTR from the utxos `us`. -/
def choosing (us : List Utxo) : Req SwapProposalBody where
  walletId := "w"
  wallet := 0
  body := { send := { tokens := some [{ value := 1 }], utxos := some us } }

/-- What is asked and told when the wallet has these outputs. -/
def choosingLog (us : List Utxo) : Log := ((swapBuildTxProposal (choosing us)).run fun _ => twoOutputs.answers).1

theorem tells_choosingLog (us : List Utxo) : ∀ e ∈ choosingLog us, twoOutputs.Tells 0 e.1 e.2 := by
  intro e he
  obtain ⟨_, hanswer⟩ := Prog.of_mem_run he
  rw [hanswer]
  exact twoOutputs.tells_answers 0 e.1

/-- The candidate for an output of the third address. -/
def thirdOffered : OfferedUtxo :=
  ⟨"tx", 1, 20, some "third", none, NATIVE_TOKEN_UID, 0, "m/44\x27/280\x27/0\x27/0/2"⟩

/-- The candidate for an output of the first address. -/
def firstOffered : OfferedUtxo := ⟨"tx", 0, 10, some "first", none, NATIVE_TOKEN_UID, 0, ""⟩

theorem third_offered : twoOutputs.Candidates [⟨"tx", 1⟩] [thirdOffered] :=
  (swap_candidates_iff twoOutputs (by decide) (choosing [⟨"tx", 1⟩]) (Prog.steps_run _ fun _ => twoOutputs.answers)
    (tells_choosingLog [⟨"tx", 1⟩]) (show ∃ e ∈ choosingLog [⟨"tx", 1⟩],
      e.1 = .wallet (.addSend 0 "" NATIVE_TOKEN_UID 1 [thirdOffered] none true) by decide +kernel)).mpr
    (by decide +kernel)

/-- A utxo that is chosen twice is offered twice, and one of the first address has no address path. -/
theorem twice_and_first_offered :
    (∃ e ∈ choosingLog [⟨"tx", 1⟩, ⟨"tx", 1⟩],
        e.1 = .wallet (.addSend 0 "" NATIVE_TOKEN_UID 1 [thirdOffered, thirdOffered] none true)) ∧
      ¬ twoOutputs.Candidates [⟨"tx", 1⟩, ⟨"tx", 1⟩] [thirdOffered, thirdOffered] ∧
      (∃ e ∈ choosingLog [⟨"tx", 0⟩],
        e.1 = .wallet (.addSend 0 "" NATIVE_TOKEN_UID 1 [firstOffered] none true)) ∧
      ¬ twoOutputs.Candidates [⟨"tx", 0⟩] [firstOffered] := by
  refine ⟨by decide +kernel, fun h => ?_, by decide +kernel, fun h => ?_⟩
  · exact absurd h.once (by decide)
  · obtain ⟨txout, hout, hdescribes⟩ := h.describes firstOffered (List.mem_singleton_self _)
    have hout : some (⟨10, some "first", none, NATIVE_TOKEN_UID, false, false⟩ : TxOut) = some txout := hout
    obtain rfl := Option.some.inj hout
    exact absurd (hdescribes.path 0 rfl) (by decide)

end WalletHeadless
