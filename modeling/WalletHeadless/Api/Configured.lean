import WalletHeadless.Api.Isolation

/-!
# Every wallet has been configured by its start

A start reads the configuration, checks what its body says against it, and waits for the libraries; meanwhile others
start, stop and reload. The wallet that is registered at its end is made of what was checked.

* `StartBody.Configures`, `StartHsmBody.Configures`, `StartFireblocksBody.Configures`: what a wallet may be made of;
* `Made`: a wallet that was made so, and started;
* `start_made`, `startHsmWallet_made`, `startFireblocksWallet_made`: a start makes and registers nothing else;
* `App.wallets_configured`: the registered wallets of every run.
-/

namespace WalletHeadless

open Coop Js

/-! ## What a wallet is made of -/

/-- What the wallet of an id may be made of: its configuration and that of the service, after the log of its start. -/
abbrev Configuring := Log → String → WalletConfig → Config → Prop

/-- What a start names as the seed: that of its body, or what the seeds of the configuration have or inherit under its
key. -/
inductive StartBody.Names (body : StartBody) (config : Config) : Seed → Prop
  | given {words : String} (hkey : body.seedKey = none) (hseed : body.seed = some words) :
      Names body config (.words words)
  | configured {key words : String} {seeds : Map String String} (hkey : body.seedKey = some key)
      (hseed : body.seed = none) (hseeds : config.seeds = some seeds) (hget : seeds.get key = some words) :
      Names body config (.words words)
  | inherited {key : String} {seeds : Map String String} (hkey : body.seedKey = some key) (hseed : body.seed = none)
      (hseeds : config.seeds = some seeds) (hget : seeds.get key = none) (hkey : key ∈ Js.inherited) :
      Names body config (.inherited key)

/-- A wallet of `/start`: of the xpub alone, or of the words that `wordsValid` has found in one seed; with a passphrase
only where the configuration allows it, and with the participants of an entry of `multisig` that are enough to sign. -/
structure StartBody.Configures (body : StartBody) (log : Log) (walletId : String) (walletConfig : WalletConfig)
    (config : Config) : Prop where
  walletId : body.walletId = some walletId
  inForce : ⟨.registry .getConfig, .ok config⟩ ∈ log
  keys : (∃ xpub, body.xpubkey = some xpub ∧ body.seedKey = none ∧ body.seed = none ∧
      walletConfig.xpub = some xpub ∧ walletConfig.seed = none ∧ walletConfig.passphrase = none) ∨
    ∃ seed words, body.xpubkey = none ∧ body.Names config seed ∧ ⟨.lib (.wordsValid seed), .ok words⟩ ∈ log ∧
      walletConfig.xpub = none ∧ walletConfig.seed = some words
  passphrase : ∀ passphrase, walletConfig.passphrase = some passphrase →
    config.allowPassphrase = true ∧ body.passphrase = some passphrase
  multisig : ∀ m, walletConfig.multisig = some m → 0 < m.numSignatures ∧ m.numSignatures ≤ m.pubkeys.length ∧
    config.multisigAt body.usedKey = some ⟨.value m.pubkeys.length, .value m.numSignatures, some m.pubkeys⟩

/-- A wallet of the HSM: of the xpub of the account of its key, which the HSM has and which passes the checks of its
type and version. -/
structure StartHsmBody.Configures (body : StartHsmBody) (log : Log) (walletId : String) (walletConfig : WalletConfig)
    (config : Config) : Prop where
  walletId : truthy body.walletId = some walletId
  inForce : ⟨.registry .getConfig, .ok config⟩ ∈ log
  key : ∃ key keyInfo xpub, truthy body.hsmKey = some key ∧ ⟨.lib (.getKeyInfo key), .ok keyInfo⟩ ∈ log ∧
    keyInfo.type = .BIP32_XPRV ∧ keyInfo.ver < 2 ∧ ⟨.lib (.getPubKey (getAcctKeyname key)), .ok xpub⟩ ∈ log ∧
    walletConfig.xpub = some xpub
  readonly : walletConfig.seed = none ∧ walletConfig.passphrase = none ∧ walletConfig.multisig = none

/-- A wallet of Fireblocks: of the xpub of its body, when Fireblocks derives the same first key. -/
structure StartFireblocksBody.Configures (body : StartFireblocksBody) (log : Log) (walletId : String)
    (walletConfig : WalletConfig) (config : Config) : Prop where
  walletId : truthy body.walletId = some walletId
  inForce : ⟨.registry .getConfig, .ok config⟩ ∈ log
  configured : fireblocksConfigured config = true
  key : ∃ xpub pubkey, truthy body.xpub = some xpub ∧ ⟨.lib (.getAddressPubkeyInfo 0), .ok pubkey⟩ ∈ log ∧
    ⟨.lib (.getPublicKeyFromXpub xpub), .ok pubkey⟩ ∈ log ∧ walletConfig.xpub = some xpub
  readonly : walletConfig.seed = none ∧ walletConfig.passphrase = none ∧ walletConfig.multisig = none

/-- What a request may make a wallet of. -/
def RootRoute.configures : RootRoute → Configuring
  | .start body => body.Configures
  | .startHsmWallet body => body.Configures
  | .startFireblocksWallet body => body.Configures
  | _ => fun _ _ _ _ => False

/-- The modes that stream are for wallets of one signer, and for the gap limit. -/
def WalletConfig.Polls (walletConfig : WalletConfig) : Prop :=
  walletConfig.multisig.isSome ∨ ∃ startIndex endIndex, walletConfig.scanPolicy = some (.indexLimit startIndex endIndex)

/-- The wallet was made of what it may be made of, then its mode was set, and then it was started. -/
inductive Made (C : Configuring) (walletId : String) (w : WalletRef) : Log → Prop
  | made {walletConfig : WalletConfig} {config : Config} {mode : HistorySyncMode} {before after : Log}
      (hmade : C before walletId walletConfig config) (hmode : walletConfig.Polls → mode = .POLLING_HTTP_API)
      (hafter : List.Sublist [⟨.lib (.setHistorySyncMode w mode), .ok ()⟩, ⟨.wallet (.start w), .ok ()⟩] after) :
      Made C walletId w (before ++ ⟨.registry (.newWallet walletId walletConfig config), .ok w⟩ :: after)

/-- A start makes a wallet of what it may, and registers what it has made. -/
def StartAllows (C : Configuring) (log : Log) : Op → Prop
  | .registry (.newWallet walletId walletConfig config) => C log walletId walletConfig config
  | .registry (.setWallet walletId w) => Made C walletId w log
  | _ => True

abbrev starting (C : Configuring) : Protocol Op.Ans Log := logging (StartAllows C)

/-- The calls that make no wallet and register none. -/
def UnmadeOp : Op → Prop
  | .registry (.newWallet ..) | .registry (.setWallet ..) => False
  | _ => True

section
variable {C : Configuring} {α : Type} {log log' : Log}

theorem UnmadeOp.allowed {c : Op} (h : UnmadeOp c) (log : Log) : StartAllows C log c := by
  unfold UnmadeOp at h
  split at h
  · exact h.elim
  · exact h.elim
  · next hnew hset =>
      unfold StartAllows
      split
      · exact absurd rfl (hnew _ _ _)
      · exact absurd rfl (hset _ _)
      · trivial

theorem QuietOp.unmade {c : Op} (h : QuietOp c) : UnmadeOp c := by
  cases c with
  | registry c => cases c <;> trivial
  | _ => trivial

theorem sendMessage_unmade (message : String) : (sendMessage message).Uses UnmadeOp := ⟨trivial, fun _ => trivial⟩

theorem sendStatus_unmade (status : Nat) (body : ReplyBody) : (sendStatus status body).Uses UnmadeOp :=
  ⟨trivial, fun _ => trivial⟩

theorem alreadyStarted_unmade (walletId : String) : (alreadyStarted walletId).Uses UnmadeOp :=
  ⟨trivial, fun _ => trivial⟩

theorem registerSigningMethod_unmade (walletId : String) (method : SigningMethod) :
    (registerSigningMethod walletId method).Uses UnmadeOp := by
  refine ⟨trivial, fun registered => ?_⟩
  cases registered with
  | none => trivial
  | some w => exact ⟨trivial, fun _ => trivial⟩

/-- A program makes what it may, and registers what it has made. -/
abbrev Makes (C : Configuring) (p : Async α) (log : Log) : Prop :=
  (starting C).wp p log (fun _ _ => True) fun _ _ => True

theorem makes_unmade {p : Async α} (hp : p.Uses UnmadeOp) (log : Log) : Makes C p log :=
  logging_of_uses hp (fun log _ hc => hc.allowed log) log

/-- The log only grows. -/
theorem wp_extends {p : Async α} {post : α → Log → Prop} (h : (starting C).wp p log post fun _ _ => True) :
    (starting C).wp p log (fun a log' => log <+: log' ∧ post a log') fun _ _ => True :=
  Protocol.wp_mono _ (logging_extends h List.prefix_rfl) (fun _ _ h => h) fun _ _ _ => trivial

theorem makes_bind {β : Type} {p : Async α} {f : α → Async β} {post : α → Log → Prop}
    (h : (starting C).wp p log post fun _ _ => True) (hf : ∀ a log', post a log' → Makes C (f a) log') :
    Makes C (p >>= f) log :=
  (Protocol.wp_bind ..).mpr (Protocol.wp_mono _ h hf fun _ _ _ => trivial)

theorem makes_tryCatch {p : Async α} {h : JsError → Async α} (hp : Makes C p log) (hh : ∀ e log', Makes C (h e) log') :
    Makes C (tryCatch p h) log :=
  (Protocol.wp_tryCatch ..).mpr (Protocol.wp_mono _ hp (fun _ _ h => h) fun e log' _ => hh e log')

theorem wp_startLib (c : LibCall) (log : Log) : (starting C).wp (lib c) log
    (fun r log' => log' = log ++ [⟨.lib c, .ok r⟩]) fun _ _ => True :=
  (Protocol.wp_attempt ..).mpr ⟨trivial, fun r _ => ⟨fun a hr => by rw [← hr]; rfl, fun _ _ => trivial⟩⟩

theorem wp_startConfig (log : Log) : (starting C).wp getConfig log
    (fun config log' => log' = log ++ [⟨.registry .getConfig, .ok config⟩]) fun _ _ => True :=
  (Protocol.wp_attempt ..).mpr ⟨trivial, fun r _ => ⟨fun a hr => by rw [← hr]; rfl, fun _ _ => trivial⟩⟩

theorem wp_startAwait {p : Async α} {post : α → Log → Prop}
    (h : (starting C).wp p log post fun _ _ => True)
    (hpost : ∀ a log', post a log' → post a (log' ++ [⟨.tick, ()⟩])) :
    (starting C).wp (await p) log post fun _ _ => True :=
  (wp_await_iff ..).mpr (Protocol.wp_mono _ h (fun a log' ha => ⟨trivial, fun _ _ => hpost a log' ha⟩)
    fun _ _ _ => ⟨trivial, fun _ _ => trivial⟩)

/-! ## The start of a wallet -/

theorem WalletConfig.Polls.mode {walletConfig : WalletConfig} (h : walletConfig.Polls) (config : Config)
    (option : Option String) : syncMode walletConfig config option = .POLLING_HTTP_API := by
  unfold syncMode
  split
  · rfl
  · next hmultisig =>
      obtain ⟨startIndex, endIndex, hpolicy⟩ := h.resolve_left hmultisig
      rw [hpolicy]

/-- A wallet is registered once it was made of what it may be made of, and started. -/
theorem startWallet_made {walletId : String} {walletConfig : WalletConfig} {config : Config} {key mode : Option String}
    (hC : C log walletId
      { walletConfig with connection := true, tokenUid := (truthy config.tokenUid).or walletConfig.tokenUid } config) :
    Makes C (startWallet walletId walletConfig config key mode) log := by
  unfold startWallet
  refine (Protocol.wp_ite ..).mpr ⟨fun _ => trivial, fun _ => ?_⟩
  -- the object of the wallet
  refine (Protocol.wp_bind ..).mpr ((Protocol.wp_attempt ..).mpr ⟨hC, fun r _ => ⟨fun w hr => ?_, fun _ _ => trivial⟩⟩)
  subst hr
  -- what is set before it starts
  refine makes_bind (wp_startLib _ _) fun _ log₁ h₁ => ?_
  refine makes_bind (wp_extends (makes_unmade ?_ log₁)) fun _ log₂ h₂ => ?_
  · split
    · exact (lib_quiet _).mono fun _ h => h.unmade
    · exact uses_pure _
  -- it starts, and is registered
  refine (Protocol.wp_bind ..).mpr ((Protocol.wp_attempt ..).mpr ⟨trivial, fun r _ =>
    ⟨fun u hr => ?_, fun _ _ => trivial⟩⟩)
  subst hr
  subst h₁
  obtain ⟨between, rfl⟩ := h₂.1
  have hmade : Made C walletId w (log ++ ⟨.registry (.newWallet walletId _ config), .ok w⟩ ::
      (⟨.lib (.setHistorySyncMode w _), .ok ()⟩ :: (between ++ [⟨.wallet (.start w), .ok u⟩]))) :=
    .made hC (fun h => h.mode config mode) ((List.sublist_append_right _ _).cons_cons _)
  refine (Protocol.wp_bind ..).mpr ⟨?_, fun _ _ => makes_unmade ?_ _⟩
  · simpa [logging, StartAllows] using hmade
  refine uses_bind ⟨trivial, fun _ => trivial⟩ fun _ => ?_
  split
  · exact ⟨trivial, fun _ => trivial⟩
  · exact uses_pure _

/-- A start that replies whether it has succeeded. -/
theorem startsAnd_made {walletId : String} {walletConfig : WalletConfig} {config : Config} {key mode : Option String}
    {rest : Async Unit} {refuse : JsError → Async Unit}
    (hC : C log walletId
      { walletConfig with connection := true, tokenUid := (truthy config.tokenUid).or walletConfig.tokenUid } config)
    (hrest : rest.Uses UnmadeOp) (hrefuse : ∀ e, (refuse e).Uses UnmadeOp) :
    Makes C (tryCatch (await (startWallet walletId walletConfig config key mode) >>= fun _ => rest) refuse) log := by
  have hstarted : Makes C (await (startWallet walletId walletConfig config key mode)) log :=
    wp_startAwait (startWallet_made hC) fun _ _ _ => trivial
  have hbody : Makes C (await (startWallet walletId walletConfig config key mode) >>= fun _ => rest) log :=
    makes_bind hstarted fun _ log' _ => makes_unmade hrest log'
  exact makes_tryCatch hbody fun e log' => makes_unmade (hrefuse e) log'

/-! ### `/start` -/

/-- What the body of a start says of the keys, the passphrase and the participants. -/
structure StartBody.Keyed (body : StartBody) (log : Log) (multisigData : Option MultisigData)
    (walletConfig : WalletConfig) (config : Config) : Prop where
  keys : (∃ xpub, body.xpubkey = some xpub ∧ body.seedKey = none ∧ body.seed = none ∧
      walletConfig.xpub = some xpub ∧ walletConfig.seed = none ∧ walletConfig.passphrase = none) ∨
    ∃ seed words, body.xpubkey = none ∧ body.Names config seed ∧ ⟨.lib (.wordsValid seed), .ok words⟩ ∈ log ∧
      walletConfig.xpub = none ∧ walletConfig.seed = some words
  passphrase : ∀ passphrase, walletConfig.passphrase = some passphrase →
    config.allowPassphrase = true ∧ body.passphrase = some passphrase
  multisig : walletConfig.multisig = multisigData

theorem wp_walletConfigFromSeed {seed : Seed} {multisigData : Option MultisigData} {passphrase : Option String}
    {allowPassphrase : Bool} {scanPolicy : Option ScanPolicy} :
    (starting C).wp (getWalletConfigFromSeed seed multisigData passphrase allowPassphrase scanPolicy) log
      (fun walletConfig log' => ∃ words, ⟨.lib (.wordsValid seed), .ok words⟩ ∈ log' ∧
        walletConfig.xpub = none ∧ walletConfig.seed = some words ∧ walletConfig.multisig = multisigData ∧
        ∀ p, walletConfig.passphrase = some p → allowPassphrase = true ∧ passphrase = some p) fun _ _ => True := by
  refine (Protocol.wp_bind ..).mpr ((Protocol.wp_tryCatch ..).mpr (Protocol.wp_mono _ (wp_startLib _ log) ?_ ?_))
  · rintro words log' rfl
    have hwords : ⟨.lib (.wordsValid seed), .ok words⟩ ∈ log ++ [⟨.lib (.wordsValid seed), .ok words⟩] :=
      List.mem_append_right _ (List.mem_singleton.mpr rfl)
    cases hp : truthy passphrase with
    | none => exact ⟨words, hwords, rfl, rfl, rfl, fun p h => by cases h⟩
    | some p =>
        refine (Protocol.wp_ite ..).mpr ⟨fun hallow => ⟨words, hwords, rfl, rfl, rfl, fun p' h => ?_⟩, fun _ => trivial⟩
        obtain rfl : p = p' := Option.some.inj h
        exact ⟨hallow, (Option.filter_eq_some_iff.mp hp).1⟩
  · intro e log' _
    exact (Protocol.wp_ite ..).mpr ⟨fun _ => trivial, fun _ => trivial⟩

/-- The seed of a start is the one that it names. -/
theorem names_of_seed {body : StartBody} {config : Config} {seed : Seed} (hkeys : keysRefused body = none)
    (h : body.seedKey.elim (.ok (body.seed.map .words)) (seedAt config) = .ok (some seed)) :
    body.Names config seed := by
  cases hkey : body.seedKey with
  | none =>
      rw [hkey] at h
      obtain ⟨words, hwords, rfl⟩ := Option.map_eq_some_iff.mp (Except.ok.inj h)
      exact .given hkey hwords
  | some key =>
      have hseed : body.seed = none := by
        unfold keysRefused at hkeys
        rw [hkey] at hkeys
        cases hseed : body.seed with
        | none => rfl
        | some seed' => simp [hseed] at hkeys
      rw [hkey] at h
      cases hseeds : config.seeds with
      | none => simp [seedAt, hseeds] at h
      | some seeds =>
          simp only [Option.elim_some, seedAt, hseeds, Except.ok.injEq] at h
          cases hget : seeds.get key with
          | some words =>
              rw [hget] at h
              cases h
              exact .configured hkey hseed hseeds hget
          | none =>
              rw [hget] at h
              obtain ⟨hinherited, he⟩ := Option.ite_none_right_eq_some.mp h
              cases he
              exact .inherited hkey hseed hseeds hget hinherited

/-- The wallet configuration of a start is of what the body says. -/
theorem wp_walletConfigOf {body : StartBody} {config : Config} {multisigData : Option MultisigData}
    {scanPolicy : Option ScanPolicy} (hkeys : keysRefused body = none) :
    (starting C).wp (walletConfigOf body config multisigData scanPolicy) log
      (fun r log' => ∀ walletConfig, r = .ok walletConfig →
        body.Keyed log' multisigData walletConfig config) fun _ _ => True := by
  unfold walletConfigOf
  cases hxpub : body.xpubkey with
  | some xpub =>
      have hnone : body.seedKey = none ∧ body.seed = none := by
        unfold keysRefused at hkeys
        cases hkey : body.seedKey <;> cases hseed : body.seed <;> simp_all
      rintro walletConfig ⟨⟩
      exact ⟨.inl ⟨xpub, hxpub, hnone.1, hnone.2, rfl, rfl, rfl⟩, fun _ h => (nomatch h), rfl⟩
  | none =>
      refine (Protocol.wp_bind ..).mpr ((Protocol.wp_orThrow ..).mpr ⟨fun named hnamed => ?_, fun _ _ => trivial⟩)
      cases named with
      | none => rintro _ ⟨⟩
      | some seed =>
          refine (Protocol.wp_tryCatch ..).mpr ((Protocol.wp_map ..).mpr
            (Protocol.wp_mono _ wp_walletConfigFromSeed ?_ ?_))
          · rintro walletConfig log' ⟨words, hwords, hx, hseed, hm, hp⟩ _ ⟨⟩
            exact ⟨.inr ⟨seed, words, hxpub, names_of_seed hkeys hnamed, hwords, hx, hseed⟩, hp, hm⟩
          · intro e log' _
            exact (Protocol.wp_ite ..).mpr ⟨fun _ => by rintro _ ⟨⟩, fun _ => trivial⟩

/-- The participants are those of an entry of the configuration, and enough to sign. -/
theorem configured_of_multisigOf {body : StartBody} {config : Config} {multisigData : Option MultisigData}
    (h : multisigOf body config = .ok multisigData) {m : MultisigData} (hm : multisigData = some m) :
    0 < m.numSignatures ∧ m.numSignatures ≤ m.pubkeys.length ∧
      config.multisigAt body.usedKey = some ⟨.value m.pubkeys.length, .value m.numSignatures, some m.pubkeys⟩ := by
  subst hm
  unfold multisigOf at h
  split at h
  · dsimp only at h
    split at h
    · cases h
    · next total numSignatures pubkeys hentry =>
        split at h
        · next hconfigured =>
            obtain ⟨-, hpos, hlength, hle⟩ := hconfigured
            obtain rfl := Option.some.inj (Except.ok.inj h)
            exact ⟨by dsimp only; omega, by dsimp only; omega, by rw [hentry, hlength]⟩
        · cases h
    · cases h
  · cases h

/-- A start that finds the wallet id free makes what its body says. -/
theorem startFree_made {body : StartBody} {walletId : String} {config : Config} (hid : body.walletId = some walletId)
    (hkeys : keysRefused body = none) (hconfig : ⟨.registry .getConfig, .ok config⟩ ∈ log) :
    Makes body.Configures (startFree walletId body config) log := by
  unfold startFree
  cases hmultisig : multisigOf body config with
  | error message => exact makes_unmade (sendMessage_unmade message) log
  | ok multisigData =>
      cases scanPolicyOf body with
      | error message => exact makes_unmade (sendMessage_unmade message) log
      | ok scanPolicy =>
          refine makes_bind (wp_extends (wp_walletConfigOf hkeys)) ?_
          rintro r log₁ ⟨hlog₁, hr⟩
          cases r with
          | error message => exact makes_unmade (sendMessage_unmade message) log₁
          | ok walletConfig =>
              have hkeyed : body.Keyed log₁ multisigData walletConfig config := hr walletConfig rfl
              refine startsAnd_made ?_ ⟨trivial, fun _ => trivial⟩ fun _ => sendMessage_unmade _
              exact ⟨hid, hlog₁.subset hconfig, hkeyed.keys, hkeyed.passphrase, fun m hm =>
                configured_of_multisigOf hmultisig (hkeyed.multisig.symm.trans hm)⟩

theorem start_made (body : StartBody) (log : Log) : Makes body.Configures (start body) log := by
  unfold start
  refine makes_bind (wp_startConfig log) fun config log₁ h₁ => ?_
  subst h₁
  cases hkeys : keysRefused body with
  | some message => exact makes_unmade (sendMessage_unmade message) _
  | none =>
      cases hid : body.walletId with
      | none => exact makes_unmade (sendMessage_unmade _) _
      | some walletId =>
          refine (Protocol.wp_bind ..).mpr ⟨trivial, fun registered _ => ?_⟩
          cases registered with
          | some w => exact makes_unmade (alreadyStarted_unmade walletId) _
          | none =>
              refine startFree_made hid hkeys (List.mem_append_left _ (List.mem_append_right _ ?_))
              exact List.mem_singleton.mpr rfl

/-! ### `/hsm/start` -/

theorem hsmDisconnect_unmade : (await hsmDisconnect).Uses UnmadeOp :=
  (uses_await trivial hsmDisconnect_uses).mono fun _ h => h.quiet.unmade

/-- Nothing is wrong with a key that the HSM has, of the right type and version. -/
theorem isKeyValidXpriv_passes (key : String) (log : Log) : (starting C).wp (isKeyValidXpriv key) log
    (fun reason log' => reason = none → ∃ keyInfo, ⟨.lib (.getKeyInfo key), .ok keyInfo⟩ ∈ log' ∧
      keyInfo.type = .BIP32_XPRV ∧ keyInfo.ver < 2) fun _ _ => True := by
  refine (Protocol.wp_bind ..).mpr ((Protocol.wp_tryCatch ..).mpr ((Protocol.wp_map ..).mpr
    (Protocol.wp_mono _ (wp_startLib _ log) ?_ ?_)))
  · rintro keyInfo log' rfl
    refine (Protocol.wp_ite ..).mpr ⟨fun _ => by rintro ⟨⟩, fun htype => (Protocol.wp_ite ..).mpr
      ⟨fun _ => by rintro ⟨⟩, fun hver _ => ?_⟩⟩
    exact ⟨keyInfo, List.mem_append_right _ (List.mem_singleton.mpr rfl), not_not.mp htype, not_not.mp hver⟩
  · intro e log' _
    rintro ⟨⟩

/-- The xpub of the account is what the HSM has for its key. -/
theorem wp_derivedXPub (key : String) (log : Log) : (starting C).wp (tryCatch (do
      await (deriveMainKeysFromRoot key)
      Except.ok <$> await (getXPubFromKey key)) fun e => return .error e) log
    (fun r log' => ∀ xpub, r = .ok xpub → ⟨.lib (.getPubKey (getAcctKeyname key)), .ok xpub⟩ ∈ log')
    fun _ _ => True := by
  have hderive : (await (deriveMainKeysFromRoot key)).Uses UnmadeOp :=
    (uses_await trivial (deriveMainKeysFromRoot_local key)).mono fun _ h => h.quiet.unmade
  have hxpub (log₁ : Log) : (starting C).wp (await (getXPubFromKey key)) log₁
      (fun xpub log' => ⟨.lib (.getPubKey (getAcctKeyname key)), .ok xpub⟩ ∈ log') fun _ _ => True :=
    wp_startAwait (Protocol.wp_mono _ (wp_startLib _ log₁) (fun _ _ h => by simp [h]) fun _ _ h => h)
      fun _ _ h => List.mem_append_left _ h
  have hbody : (starting C).wp (do
        await (deriveMainKeysFromRoot key)
        Except.ok (ε := JsError) <$> await (getXPubFromKey key)) log
      (fun r log' => ∀ xpub, r = .ok xpub → ⟨.lib (.getPubKey (getAcctKeyname key)), .ok xpub⟩ ∈ log')
      fun _ _ => True := by
    refine (Protocol.wp_bind ..).mpr (Protocol.wp_mono _ (makes_unmade hderive log) (fun _ log₁ _ => ?_) fun _ _ h => h)
    refine (Protocol.wp_map ..).mpr (Protocol.wp_mono _ (hxpub log₁) (fun xpub log₂ h => ?_) fun _ _ h => h)
    rintro _ ⟨⟩
    exact h
  exact (Protocol.wp_tryCatch ..).mpr (Protocol.wp_mono _ hbody (fun _ _ h => h) fun e log' _ => by rintro _ ⟨⟩)

theorem startConnected_made {body : StartHsmBody} {walletId key : String} (hid : truthy body.walletId = some walletId)
    (hkey : truthy body.hsmKey = some key) : Makes body.Configures (startConnected walletId key) log := by
  unfold startConnected
  refine makes_bind (wp_startAwait (isKeyValidXpriv_passes key log) fun reason log' h hnone => ?_) fun reason log₁ h₁ => ?_
  · obtain ⟨keyInfo, hinfo, h⟩ := h hnone
    exact ⟨keyInfo, List.mem_append_left _ hinfo, h⟩
  cases reason with
  | some reason => exact makes_unmade (uses_bind (sendMessage_unmade reason) fun _ => hsmDisconnect_unmade) log₁
  | none =>
      obtain ⟨keyInfo, hinfo, htype, hver⟩ := h₁ rfl
      refine makes_bind (wp_extends (wp_derivedXPub key log₁)) ?_
      rintro r log₂ ⟨h₂, hr⟩
      cases r with
      | error e => exact makes_unmade (uses_bind (sendMessage_unmade _) fun _ => hsmDisconnect_unmade) log₂
      | ok xpub =>
          refine makes_bind (wp_extends (makes_unmade hsmDisconnect_unmade log₂)) fun _ log₃ h₃ => ?_
          refine makes_bind (wp_startConfig log₃) fun config log₄ h₄ => ?_
          subst h₄
          refine startsAnd_made ?_ ?_ fun _ => ⟨trivial, fun _ => trivial⟩
          · have hlog := h₃.1.trans (List.prefix_append log₃ [⟨.registry .getConfig, .ok config⟩])
            exact ⟨hid, List.mem_append_right _ (List.mem_singleton.mpr rfl), ⟨key, keyInfo, xpub, hkey,
              hlog.subset (h₂.subset hinfo), htype, hver, hlog.subset (hr xpub rfl), rfl⟩, rfl, rfl, rfl⟩
          · exact uses_bind (registerSigningMethod_unmade walletId _) fun _ => ⟨trivial, fun _ => trivial⟩

theorem startHsmWallet_made (body : StartHsmBody) (log : Log) : Makes body.Configures (startHsmWallet body) log := by
  have hconnect : (tryCatch (Except.ok <$> await hsmConnect) fun e =>
      return .error e : Async (Except JsError Unit)).Uses UnmadeOp :=
    uses_tryCatch (uses_map ((uses_await trivial hsmConnect_uses).mono fun _ h => h.quiet.unmade)) fun _ => uses_pure _
  unfold startHsmWallet
  cases hid : truthy body.walletId with
  | none => exact makes_unmade (sendMessage_unmade _) log
  | some walletId =>
      refine (Protocol.wp_bind ..).mpr ⟨trivial, fun registered _ => ?_⟩
      cases registered with
      | some w => exact makes_unmade (alreadyStarted_unmade walletId) _
      | none =>
          cases hkey : truthy body.hsmKey with
          | none => exact makes_unmade (sendMessage_unmade _) _
          | some key =>
              refine makes_bind (makes_unmade hconnect _) fun connected log₁ _ => ?_
              cases connected with
              | ok u => exact startConnected_made hid hkey
              | error e =>
                  refine makes_unmade (uses_ite (sendMessage_unmade _) ?_) log₁
                  exact uses_bind (sendMessage_unmade _) fun _ => hsmDisconnect_unmade

/-! ### `/fireblocks/start` -/

/-- Nothing is wrong with an xpub whose first key is the one of Fireblocks. -/
theorem wp_checkFireblocksKey (xpub : String) (log : Log) : (starting C).wp (checkFireblocksKey xpub) log
    (fun refusal log' => refusal = none → ∃ pubkey, ⟨.lib (.getAddressPubkeyInfo 0), .ok pubkey⟩ ∈ log' ∧
      ⟨.lib (.getPublicKeyFromXpub xpub), .ok pubkey⟩ ∈ log') fun _ _ => True := by
  have hinfo : (starting C).wp (await (getAddressPubkeyInfo 0)) log
      (fun pubkey log' => ⟨.lib (.getAddressPubkeyInfo 0), .ok pubkey⟩ ∈ log') fun _ _ => True :=
    wp_startAwait (Protocol.wp_mono _ (wp_startLib _ log) (fun _ _ h => by simp [h]) fun _ _ h => h)
      fun _ _ h => List.mem_append_left _ h
  refine (Protocol.wp_tryCatch ..).mpr ((Protocol.wp_bind ..).mpr (Protocol.wp_mono _ hinfo ?_
    fun e log' _ => by rintro ⟨⟩))
  intro addressPubkeyInfo log₁ h₁
  refine (Protocol.wp_bind ..).mpr (Protocol.wp_mono _ (wp_startLib _ log₁) ?_ fun e log' _ => by rintro ⟨⟩)
  rintro localPublicKey log₂ rfl
  refine (Protocol.wp_ite ..).mpr ⟨fun _ => by rintro ⟨⟩, fun hsame _ => ?_⟩
  obtain rfl := not_not.mp hsame
  exact ⟨_, List.mem_append_left _ h₁, List.mem_append_right _ (List.mem_singleton.mpr rfl)⟩

theorem startFireblocksWallet_made (body : StartFireblocksBody) (log : Log) :
    Makes body.Configures (startFireblocksWallet body) log := by
  have hclient : startClient.Uses UnmadeOp := by
    refine uses_bind (getConfig_uses.mono fun _ h => h.signing.quiet.unmade) fun config => ?_
    split
    · exact uses_pure _
    · exact uses_bind ((lib_quiet _).mono fun _ h => h.unmade) fun _ => uses_pure _
  unfold startFireblocksWallet
  cases hid : truthy body.walletId with
  | none => exact makes_unmade (sendMessage_unmade _) log
  | some walletId =>
      cases hxpub : truthy body.xpub with
      | none => exact makes_unmade (sendMessage_unmade _) log
      | some xpub =>
          refine (Protocol.wp_bind ..).mpr ⟨trivial, fun registered _ => ?_⟩
          cases registered with
          | some w => exact makes_unmade (alreadyStarted_unmade walletId) _
          | none =>
              refine makes_bind (wp_startConfig _) fun config log₁ h₁ => (Protocol.wp_ite ..).mpr
                ⟨fun hconfigured => ?_, fun _ => makes_unmade (sendMessage_unmade _) log₁⟩
              have hconfig : (⟨.registry .getConfig, .ok config⟩ : Event Op.Ans) ∈ log₁ := by simp [h₁]
              refine makes_bind (wp_extends (makes_unmade hclient log₁)) fun _ log₂ h₂ => ?_
              refine makes_bind (wp_extends (wp_checkFireblocksKey xpub log₂)) ?_
              rintro refusal log₃ ⟨h₃, hkey⟩
              cases refusal with
              | some reply => exact makes_unmade (sendStatus_unmade _ _) log₃
              | none =>
                  obtain ⟨pubkey, hinfo, hlocal⟩ := hkey rfl
                  refine startsAnd_made ?_ ?_ fun _ => ⟨trivial, fun _ => trivial⟩
                  · exact ⟨hid, h₃.subset (h₂.1.subset hconfig), hconfigured,
                      ⟨xpub, pubkey, hxpub, hinfo, hlocal, rfl⟩, rfl, rfl, rfl⟩
                  · exact uses_bind (registerSigningMethod_unmade walletId _) fun _ => ⟨trivial, fun _ => trivial⟩

end

/-! ## The application -/

/-- The calls of the handlers in a log of all calls. -/
def handlerLog (log : List (Event ApiOp.Ans)) : Log :=
  log.filterMap fun
    | ⟨.gate (.server d), r⟩ => some ⟨d, r⟩
    | _ => none

/-- What the handlers may ask, among all calls. -/
def ApiStartAllows (C : Configuring) (log : List (Event ApiOp.Ans)) : ApiOp → Prop
  | .gate (.server d) => StartAllows C (handlerLog log) d
  | _ => True

/-- The calls that make no wallet and register none, among all calls. -/
def UnmadeApiOp : ApiOp → Prop
  | .gate (.server d) => UnmadeOp d
  | _ => True

/-- What a request may make a wallet of. -/
def HttpRequest.configures (req : HttpRequest) : Configuring :=
  match req.route with
  | .root route => route.configures
  | _ => fun _ _ _ _ => False

section
variable {C : Configuring} {α : Type} {log : List (Event ApiOp.Ans)} {req : HttpRequest}

theorem UnmadeApiOp.allowed {c : ApiOp} (h : UnmadeApiOp c) (log : List (Event ApiOp.Ans)) : ApiStartAllows C log c := by
  cases c with
  | gate c =>
      cases c with
      | server d => exact UnmadeOp.allowed h _
      | _ => trivial
  | _ => trivial

theorem unmade_of_registry {A : ApiOp → Prop} {c : ApiOp} (h : A c)
    (hA : ∀ d, A (.gate (.server (.registry d))) → UnmadeOp (.registry d)) : UnmadeApiOp c := by
  cases c with
  | gate c =>
      cases c with
      | server d =>
          cases d with
          | registry d => exact hA d h
          | _ => trivial
      | _ => trivial
  | _ => trivial

theorem LayerOp.unmade {c : ApiOp} (h : LayerOp c) : UnmadeApiOp c :=
  unmade_of_registry h fun d hd => by cases d <;> trivial

theorem allowed_onApi {p : Async α} {post : α → Log → Prop} {fail : JsError → Log → Prop}
    (h : (starting C).wp p (handlerLog log) post fail) :
    Allowed (ApiStartAllows C) (fun _ _ => True) (onApi p) log := by
  induction p generalizing log with
  | ret a => trivial
  | throw e => trivial
  | op c k ih =>
      refine ⟨h.1, fun r _ => ih r ?_⟩
      have hlog : handlerLog (log ++ [⟨.gate (.server c), r⟩]) = handlerLog log ++ [⟨c, r⟩] := List.filterMap_append
      show (starting C).wp (k r) (handlerLog (log ++ [⟨.gate (.server c), r⟩])) post fail
      rw [hlog]
      exact h.2 r trivial

theorem footprint_unmade {kind : RouteKind} {x : Injected} {c : ApiOp} (h : (kind.footprint x).asks c) : UnmadeApiOp c :=
  unmade_of_registry h fun d hd => by cases kind <;> cases d <;> trivial

theorem RootRoute.handle_made (route : RootRoute) (log : List (Event ApiOp.Ans)) :
    Allowed (ApiStartAllows route.configures) (fun _ _ => True) route.handle log := by
  have hunmade (h : ∀ c, route.footprint.asks c → UnmadeApiOp c) :
      Allowed (ApiStartAllows route.configures) (fun _ _ => True) route.handle log :=
    logging_of_uses route.handle_handles.uses (fun log c hc => (hc.elim (h c) LayerOp.unmade).allowed log) log
  cases route with
  | start body => exact allowed_onApi (start_made body _)
  | startHsmWallet body => exact allowed_onApi (startHsmWallet_made body _)
  | startFireblocksWallet body => exact allowed_onApi (startFireblocksWallet_made body _)
  | _ => exact hunmade fun c hc => unmade_of_registry hc fun d hd => by cases d <;> trivial

/-- A request makes what it may, and registers what it has made. -/
theorem serve_made (L : TxProposalLib) (key : Option String) (req : HttpRequest) :
    Allowed (ApiStartAllows req.configures) (fun _ _ => True) (serve L key req) [] := by
  refine serve_wp L key (fun log c hc => hc.layer.unmade.allowed log) (fun _ _ _ _ => trivial)
    (fun log route hroute => ?_) fun log path route x _ _ => ?_
  · have hconfigures : req.configures = route.configures := by
      unfold HttpRequest.configures
      rw [hroute]
    rw [hconfigures]
    exact route.handle_made log
  · exact logging_of_uses (route.handle_handles L x).uses
      (fun log c hc => (hc.elim footprint_unmade LayerOp.unmade).allowed log) log

end

/-! ## Every run -/

theorem Made.mono {C : Configuring} {log log' : Log} {walletId : String} {w : WalletRef} (h : Made C walletId w log)
    (hlog : log <+: log') : Made C walletId w log' := by
  obtain ⟨rest, rfl⟩ := hlog
  cases h with
  | made hmade hmode hafter =>
      rw [List.append_assoc, List.cons_append]
      exact .made hmade hmode (hafter.trans (List.sublist_append_left _ _))

theorem handlerLog_mono {log log' : List (Event ApiOp.Ans)} (h : log <+: log') : handlerLog log <+: handlerLog log' :=
  h.filterMap _

/-- The wallet of an id is what was registered for it. -/
theorem registered_frame (walletId : String) (w : WalletRef) : world.Frame (fun _ => True)
    (fun _ d => d = .registry (.setWallet walletId w)) (fun _ => False)
    fun s s' => s'.initializedWallets.get walletId = some w → s.initializedWallets.get walletId = some w where
  refl s := id
  trans s s' s'' h h' hw := h (h' hw)
  call i c s _ _ hw := by
    cases c with
    | wallet c => cases c <;> exact hw
    | hsm c => cases c <;> exact hw
    | _ => exact hw
  perform i c a r s s' _ hB hp hw := by
    have huntouched := Server.performOp_untouched hp
    cases c with
    | registry c =>
        have he : (s.performRegistry i c a).2 = s' := congrArg Prod.snd (Option.some.inj hp)
        subst he
        cases c with
        | setWallet id v =>
            have hget : (s.initializedWallets.set id v).get walletId = some w := hw
            rw [Js.Map.get_set] at hget
            split at hget
            · next hid =>
                obtain rfl := Option.some.inj hget
                exact absurd (by rw [hid]) hB
            · exact hget
        | deleteWallet id =>
            have hget : (s.initializedWallets.delete id).get walletId = some w := hw
            rw [Js.Map.get_delete] at hget
            split at hget
            · cases hget
            · exact hget
        | newWallet id walletConfig config => cases a <;> exact hw
        | _ => exact hw
    | _ => rwa [huntouched.wallets (by simp)] at hw
  ext e s s' _ _ he hw := by
    obtain ⟨d, -, rfl⟩ | ⟨t, L, -, -, rfl⟩ | ⟨i, u, d, -, -, -, -, rfl⟩ | ⟨v, u, -, rfl⟩ | ⟨v, u, -, rfl⟩ :=
      Server.outside_cases he <;> exact hw

/-- A flow that asks to register a wallet has made it. -/
theorem App.made {L : TxProposalLib} {key : Option String} {ok : App → AppStep → Prop} {s₀ : Api} {S : App}
    (h : App.Run L key ok s₀ S) {i : Nat} {p : Proc ApiOp.Ans JsError Unit HttpRequest} (hp : S.procs[i]? = some p)
    {walletId : String} {w : WalletRef}
    (hasked : Asked (ofServer fun d => d = .registry (.setWallet walletId w)) p.log p.rest) :
    Made p.req.configures walletId w (handlerLog p.log) := by
  have htold := Protocol.told_of_may (P := logging (ApiStartAllows p.req.configures)) (fun _ _ _ => trivial) [] p.log
  obtain ⟨u, c, hu, hc, hset⟩ := hasked.allowed (Reach.steps h hp) (serve_made L key p.req) htold
  rw [logging_after] at hc
  cases c with
  | gate c =>
      cases c with
      | server d =>
          obtain rfl : d = _ := hset
          exact Made.mono hc (handlerLog_mono hu)
      | _ => exact hset.elim
  | _ => exact hset.elim

/-- In every run, a wallet that is registered since the start was made and started by a request for its id, of what its
body and the configuration that it has read say. -/
theorem App.wallets_configured {L : TxProposalLib} {key : Option String} {ok : App → AppStep → Prop} {s₀ : Api} {S : App}
    (h : App.Run L key ok s₀ S) {walletId : String} {w : WalletRef}
    (hw : S.state.gate.server.initializedWallets.get walletId = some w) :
    s₀.gate.server.initializedWallets.get walletId = some w ∨
      ∃ (i : Nat) (p : Proc ApiOp.Ans JsError Unit HttpRequest), S.procs[i]? = some p ∧
        Made p.req.configures walletId w (handlerLog p.log) := by
  refine Reach.attributed (M := fun s => s.gate.server.initializedWallets.get walletId = some w)
    (A := fun _ req log => Made req.configures walletId w (handlerLog log))
    (fun i req t u htu hmade => Made.mono (C := req.configures) hmade (handlerLog_mono htu))
    (fun S S' l hr hs hM hbefore => ?_) h hw
  have hrun : App.Run L key (fun _ _ => True) s₀ S' := (Reach.mono (fun _ _ _ => trivial) hr).step trivial hs
  rcases (api_frame (registered_frame walletId w)).step (api_steady steady_true) trivial hs (fun hR => hbefore (hR hM))
    with ⟨e, -, he⟩ | ⟨i, p, -, hp, hasked⟩
  · cases e with
    | outside e => exact he.elim
    | changed wallet state => exact he.elim
  · exact ⟨i, p, hp, App.made hrun hp hasked⟩

theorem registers_get : (Sys.exec api (serve oneHexLib none) (fun _ _ => True) (registers ++ [appProceeds 0])
    ⟨servesOne, []⟩).any (fun S => S.state.gate.server.initializedWallets.get "v" = some 1) = true := by
  decide +kernel

theorem registers_configured : ∃ S : App, S.state.gate.server.initializedWallets.get "v" = some 1 ∧
    ∃ (i : Nat) (p : Proc ApiOp.Ans JsError Unit HttpRequest), S.procs[i]? = some p ∧
      Made p.req.configures "v" 1 (handlerLog p.log) := by
  obtain ⟨S, hS, hget⟩ := App.run_of_exec registers_get
  exact ⟨S, hget, (App.wallets_configured hS hget).resolve_left (by decide)⟩

end WalletHeadless
