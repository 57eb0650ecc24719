import WalletHeadless.Server.Requests

/-!
# What the analysis of a new configuration finds

* `SeedDiffers`, `SeedUnreadable`: what one turn of the loop over the old seeds finds;
* `seedsChanged_cases`: how the loop ends;
* `Config.Usable`, `Config.Keeps`: the multisig entries that a start can use, and those that a new configuration keeps;
* `Analyses`: the analysis returns, and asks for all that the change needs;
* `analyses_iff`: when it does; `multisig_unseen`: a multisig entry without a seed, and a configuration without seeds.
-/

namespace WalletHeadless

open Coop Js

/-! ## One seed -/

/-- The two numbers of an entry are those of another. -/
def MultiSigConfig.SameCounts (m m' : MultiSigConfig) : Prop :=
  m'.total = m.total ∧ m'.numSignatures = m.numSignatures

/-- The multisig entry of a key was removed, or it differs in its numbers or in its sorted public keys as one text. -/
def EntryDiffers (oldConfig newConfig : Config) (key : String) : Prop :=
  ∃ m, oldConfig.multisigAt key = some m ∧ ∀ m', newConfig.multisigAt key = some m' → m.SameCounts m' →
    ∃ ps ps', m.pubkeys = some ps ∧ m'.pubkeys = some ps' ∧ sortedJoin ";" ps' ≠ sortedJoin ";" ps

/-- The entries have the same numbers, and one of them has no public keys. -/
def EntryUnreadable (oldConfig newConfig : Config) (key : String) : Prop :=
  ∃ m m', oldConfig.multisigAt key = some m ∧ newConfig.multisigAt key = some m' ∧ m.SameCounts m' ∧
    (m.pubkeys = none ∨ m'.pubkeys = none)

/-- There are new seeds, and an old seed was changed or removed, or the multisig entry of its key differs. -/
def SeedDiffers (oldConfig newConfig : Config) (e : String × String) : Prop :=
  ∃ seeds, newConfig.seeds = some seeds ∧ (seeds.get e.1 ≠ some e.2 ∨ EntryDiffers oldConfig newConfig e.1)

/-- There are no new seeds, or the seed is the same and the multisig entries of its key cannot be compared. -/
def SeedUnreadable (oldConfig newConfig : Config) (e : String × String) : Prop :=
  newConfig.seeds = none ∨
    ∃ seeds, newConfig.seeds = some seeds ∧ seeds.get e.1 = some e.2 ∧ EntryUnreadable oldConfig newConfig e.1

section
variable {oldConfig newConfig : Config} {key : String}

theorem not_entryDiffers_of_none (h : oldConfig.multisigAt key = none) : ¬ EntryDiffers oldConfig newConfig key := by
  rintro ⟨m, hm, -⟩
  rw [h] at hm
  cases hm

theorem not_entryUnreadable_of_none (h : oldConfig.multisigAt key = none) :
    ¬ EntryUnreadable oldConfig newConfig key := by
  rintro ⟨m, m', hm, -⟩
  rw [h] at hm
  cases hm

variable {m m' : MultiSigConfig} (hm : oldConfig.multisigAt key = some m)
include hm

theorem entryDiffers_of_none (h : newConfig.multisigAt key = none) : EntryDiffers oldConfig newConfig key := by
  refine ⟨m, hm, fun m' hm' => ?_⟩
  rw [h] at hm'
  cases hm'

variable (hm' : newConfig.multisigAt key = some m')
include hm'

theorem entryDiffers_iff : EntryDiffers oldConfig newConfig key ↔ (m.SameCounts m' →
    ∃ ps ps', m.pubkeys = some ps ∧ m'.pubkeys = some ps' ∧ sortedJoin ";" ps' ≠ sortedJoin ";" ps) := by
  simp [EntryDiffers, hm, hm']

theorem entryUnreadable_iff : EntryUnreadable oldConfig newConfig key ↔
    m.SameCounts m' ∧ (m.pubkeys = none ∨ m'.pubkeys = none) := by
  simp [EntryUnreadable, hm, hm']

end

theorem EntryDiffers.not_unreadable {oldConfig newConfig : Config} {key : String}
    (h : EntryDiffers oldConfig newConfig key) : ¬ EntryUnreadable oldConfig newConfig key := by
  rintro ⟨m, m', hm, hm', hsame, hpubkeys⟩
  obtain ⟨ps, ps', hps, hps', -⟩ := (entryDiffers_iff hm hm').mp h hsame
  rw [hps, hps'] at hpubkeys
  simp at hpubkeys

theorem SeedDiffers.not_unreadable {oldConfig newConfig : Config} {e : String × String}
    (h : SeedDiffers oldConfig newConfig e) : ¬ SeedUnreadable oldConfig newConfig e := by
  obtain ⟨seeds, hseeds, hdiffers⟩ := h
  rintro (hnone | ⟨seeds', hseeds', hget, hread⟩)
  · rw [hnone] at hseeds
    cases hseeds
  · rw [hseeds] at hseeds'
    cases hseeds'
    rcases hdiffers with hne | hentry
    · exact hne hget
    · exact hentry.not_unreadable hread

/-- Two configurations that are the same but for the multisig entries. -/
def Config.SameBut (config config' : Config) : Prop := ∃ multisig, config = { config' with multisig := multisig }

theorem Config.SameBut.refl (config : Config) : config.SameBut config := ⟨config.multisig, rfl⟩

theorem Config.SameBut.trans {config config' config'' : Config} (h : config.SameBut config')
    (h' : config'.SameBut config'') : config.SameBut config'' := by
  obtain ⟨multisig, rfl⟩ := h
  obtain ⟨multisig', rfl⟩ := h'
  exact ⟨multisig, rfl⟩

/-- Two configurations that are the same for the seed `key`. -/
def SameAt (key : String) (config config' : Config) : Prop :=
  config'.seeds = config.seeds ∧ config'.multisigAt key = config.multisigAt key

theorem sameAt_sortPubkeys {key seedKey : String} (h : key ≠ seedKey) (multisig : MultiSigConfig) (config : Config) :
    SameAt key config (sortPubkeys seedKey multisig config) := by
  refine ⟨rfl, ?_⟩
  unfold Config.multisigAt sortPubkeys
  cases config.multisig with
  | none => rfl
  | some entries => simp [Map.get_set_of_ne _ _ h]

theorem SameAt.differs {oldConfig config config' : Config} {e : String × String} (h : SameAt e.1 config config') :
    SeedDiffers oldConfig config' e ↔ SeedDiffers oldConfig config e := by
  unfold SeedDiffers EntryDiffers
  rw [h.1, h.2]

theorem SameAt.unreadable {oldConfig config config' : Config} {e : String × String} (h : SameAt e.1 config config') :
    SeedUnreadable oldConfig config' e ↔ SeedUnreadable oldConfig config e := by
  unfold SeedUnreadable EntryUnreadable
  rw [h.1, h.2]

/-! ## All seeds -/

/-- How the loop over the old seeds ends: at the first seed that differs or cannot be compared, or after all. -/
inductive SeedsEnd (oldConfig newConfig : Config) (seeds : List (String × String)) :
    Except JsError (Bool × Config) → Prop
  | crash (pre post : List (String × String)) {e : String × String} (hseeds : seeds = pre ++ e :: post)
      (hpre : ∀ x ∈ pre, ¬ SeedDiffers oldConfig newConfig x) (he : SeedUnreadable oldConfig newConfig e)
      (err : JsError) : SeedsEnd oldConfig newConfig seeds (.error err)
  | stop (pre post : List (String × String)) {e : String × String} (hseeds : seeds = pre ++ e :: post)
      (hpre : ∀ x ∈ pre, ¬ SeedUnreadable oldConfig newConfig x) (he : SeedDiffers oldConfig newConfig e)
      {config : Config} (hsame : config.SameBut newConfig) : SeedsEnd oldConfig newConfig seeds (.ok (true, config))
  | same (hall : ∀ x ∈ seeds, ¬ SeedDiffers oldConfig newConfig x ∧ ¬ SeedUnreadable oldConfig newConfig x)
      {config : Config} (hsame : config.SameBut newConfig) : SeedsEnd oldConfig newConfig seeds (.ok (false, config))

namespace SeedsEnd

variable {oldConfig newConfig config' : Config} {e : String × String} {seeds : List (String × String)}
  {r : Except JsError (Bool × Config)}

/-- The first seed is the same, and the loop goes on with a configuration that is the same for the others. -/
theorem cons (h : SeedsEnd oldConfig config' seeds r) (hbut : config'.SameBut newConfig)
    (hsame : ∀ x ∈ seeds, SameAt x.1 newConfig config') (hdiffers : ¬ SeedDiffers oldConfig newConfig e)
    (hread : ¬ SeedUnreadable oldConfig newConfig e) : SeedsEnd oldConfig newConfig (e :: seeds) r := by
  cases h with
  | @crash pre post x hx hpre he err =>
      subst hx
      refine .crash (e :: pre) post rfl (fun y hy => ?_) ((hsame x (by simp)).unreadable.mp he) err
      rcases List.mem_cons.mp hy with rfl | hy
      · exact hdiffers
      · rw [← (hsame y (by simp [hy])).differs]
        exact hpre y hy
  | @stop pre post x hx hpre he config hconfig =>
      subst hx
      refine .stop (e :: pre) post rfl (fun y hy => ?_) ((hsame x (by simp)).differs.mp he) (hconfig.trans hbut)
      rcases List.mem_cons.mp hy with rfl | hy
      · exact hread
      · rw [← (hsame y (by simp [hy])).unreadable]
        exact hpre y hy
  | same hall hconfig =>
      refine .same (fun y hy => ?_) (hconfig.trans hbut)
      rcases List.mem_cons.mp hy with rfl | hy
      · exact ⟨hdiffers, hread⟩
      · rw [← (hsame y hy).differs, ← (hsame y hy).unreadable]
        exact hall y hy

theorem of_differs (h : SeedDiffers oldConfig newConfig e) (hbut : config'.SameBut newConfig) :
    SeedsEnd oldConfig newConfig (e :: seeds) (.ok (true, config')) :=
  .stop [] seeds rfl (by simp) h hbut

theorem of_unreadable (h : SeedUnreadable oldConfig newConfig e) (err : JsError) :
    SeedsEnd oldConfig newConfig (e :: seeds) (.error err) :=
  .crash [] seeds rfl (by simp) h err

end SeedsEnd

/-- The loop ends at the first seed that differs or cannot be compared. -/
theorem seedsChanged_cases (oldConfig : Config) {seeds : List (String × String)} (hnodup : (seeds.map Prod.fst).Nodup)
    (newConfig : Config) : SeedsEnd oldConfig newConfig seeds (seedsChanged oldConfig seeds newConfig) := by
  induction seeds generalizing newConfig with
  | nil => exact .same (by simp) (.refl newConfig)
  | cons e seeds ih =>
      obtain ⟨hfresh, hnodup⟩ := List.nodup_cons.mp hnodup
      have hne (x : String × String) (hx : x ∈ seeds) : x.1 ≠ e.1 := fun heq => hfresh (heq ▸ List.mem_map_of_mem hx)
      have hgoes := ih hnodup
      unfold seedsChanged
      split
      next hseeds => exact .of_unreadable (.inl hseeds) _
      next newSeeds hseeds =>
        split
        next hget => exact .of_differs ⟨newSeeds, hseeds, .inl hget⟩ (.refl newConfig)
        next hget =>
          have hget : newSeeds.get e.1 = some e.2 := not_not.mp hget
          have hdiffers (h : ¬ EntryDiffers oldConfig newConfig e.1) : ¬ SeedDiffers oldConfig newConfig e := by
            simp [SeedDiffers, hseeds, hget, h]
          have hread (h : ¬ EntryUnreadable oldConfig newConfig e.1) : ¬ SeedUnreadable oldConfig newConfig e := by
            simp [SeedUnreadable, hseeds, h]
          have hstop (h : EntryDiffers oldConfig newConfig e.1) : SeedDiffers oldConfig newConfig e :=
            ⟨newSeeds, hseeds, .inr h⟩
          split
          next hold =>
            exact (hgoes newConfig).cons (.refl newConfig) (fun _ _ => ⟨rfl, rfl⟩) (hdiffers (not_entryDiffers_of_none hold))
              (hread (not_entryUnreadable_of_none hold))
          next m hold =>
            split
            next hnew => exact .of_differs (hstop (entryDiffers_of_none hold hnew)) (.refl newConfig)
            next m' hnew =>
              rw [entryDiffers_iff hold hnew] at hdiffers hstop
              rw [entryUnreadable_iff hold hnew] at hread
              split
              next hcounts => exact .of_differs (hstop fun hsame => absurd hsame (not_and_or.mpr hcounts)) (.refl newConfig)
              next hcounts =>
                have hsame : m.SameCounts m' := by simpa [MultiSigConfig.SameCounts] using hcounts
                split
                next ps' ps hps' hps =>
                  split
                  next hjoin => exact .of_differs (hstop fun _ => ⟨ps, ps', hps, hps', hjoin⟩) ⟨_, rfl⟩
                  next hjoin =>
                    refine (hgoes _).cons ⟨_, rfl⟩ (fun x hx => sameAt_sortPubkeys (hne x hx) _ _) (hdiffers fun h => ?_)
                      (hread fun h => ?_)
                    · obtain ⟨qs, qs', hqs, hqs', hdiffer⟩ := h hsame
                      cases hps.symm.trans hqs
                      cases hps'.symm.trans hqs'
                      exact hjoin hdiffer
                    · simp [hps, hps'] at h
                next hnone =>
                  refine .of_unreadable (.inr ⟨newSeeds, hseeds, hget, (entryUnreadable_iff hold hnew).mpr ⟨hsame, ?_⟩⟩) _
                  cases hps : m.pubkeys with
                  | none => exact .inl rfl
                  | some ps =>
                      cases hps' : m'.pubkeys with
                      | none => exact .inr rfl
                      | some ps' => exact absurd hps (hnone ps' ps hps')

/-! ## What a change needs -/

/-- An entry that a start could use under the key `key`. -/
def Config.Usable (config : Config) (key : String) (m : MultiSigConfig) : Prop :=
  config.multisigAt key = some m ∧ ∃ (body : StartBody) (data : MultisigData), keysRefused body = none ∧
    body.walletId.isSome = true ∧ body.usedKey = key ∧ multisigOf body config = .ok (some data)

/-- Two entries with the same public keys. -/
def MultiSigConfig.SamePubkeys (m m' : MultiSigConfig) : Prop := ∀ p, p ∈ m'.pubkeys.getD [] ↔ p ∈ m.pubkeys.getD []

/-- The entry `m` is still there, with the same numbers and the same public keys. -/
def Config.Keeps (config : Config) (key : String) (m : MultiSigConfig) : Prop :=
  ∃ m', config.multisigAt key = some m' ∧ m.SameCounts m' ∧ m.SamePubkeys m'

/-- A field that the wallets are started with has changed. -/
def WalletFieldChanged (oldConfig newConfig : Config) : Prop :=
  oldConfig.server ≠ newConfig.server ∨ oldConfig.network ≠ newConfig.network ∨
    oldConfig.tokenUid ≠ newConfig.tokenUid ∨ oldConfig.gapLimit ≠ newConfig.gapLimit ∨
    oldConfig.connectionTimeout ≠ newConfig.connectionTimeout

/-- A field that `wallet-lib` is set up with has changed. -/
def LibFieldChanged (oldConfig newConfig : Config) : Prop :=
  oldConfig.server ≠ newConfig.server ∨ oldConfig.network ≠ newConfig.network ∨
    oldConfig.txMiningUrl ≠ newConfig.txMiningUrl ∨ oldConfig.txMiningApiKey ≠ newConfig.txMiningApiKey ∨
    oldConfig.atomicSwapService ≠ newConfig.atomicSwapService

/-- An old seed was changed or removed, or an entry that a start could use, or a field of the wallets has changed. -/
def WalletsOutdated (oldConfig newConfig : Config) : Prop :=
  (∃ e ∈ oldConfig.seedEntries, (newConfig.seeds.bind fun seeds => seeds.get e.1) ≠ some e.2) ∨
    (∃ key m, oldConfig.Usable key m ∧ ¬ newConfig.Keeps key m) ∨ WalletFieldChanged oldConfig newConfig

/-- The analysis returns, and where the change is recoverable it asks for all that the change needs; `w` answers the
checks of the seeds. -/
def Analyses (w : (c : Op) → c.Ans) (oldConfig newConfig : Config) : Prop :=
  ∃ action config, (analizeConfig (some oldConfig) newConfig).eval w = .ok (action, config) ∧
    (action.nonRecoverable = false → (WalletsOutdated oldConfig newConfig → action.stopAllWallets = true) ∧
      (LibFieldChanged oldConfig newConfig → action.reconfigLib = true))

/-- A seed of the new configuration is refused. -/
def SeedRefused (w : (c : Op) → c.Ans) (newConfig : Config) : Prop :=
  ∃ e ∈ newConfig.seedEntries, w (.lib (.seedValid e.2)) ≠ .ok true

theorem actionFor_stop (oldConfig newConfig : Config) (shouldStop : Bool) :
    (actionFor oldConfig newConfig shouldStop).stopAllWallets = true ↔
      shouldStop = true ∨ WalletFieldChanged oldConfig newConfig := by
  simp [actionFor, WalletFieldChanged, or_assoc]

theorem actionFor_lib (oldConfig newConfig : Config) (shouldStop : Bool) :
    (actionFor oldConfig newConfig shouldStop).reconfigLib = true ↔ LibFieldChanged oldConfig newConfig := by
  simp only [actionFor, LibFieldChanged, Bool.or_eq_true, bne_iff_ne]
  tauto

section
variable {w : (c : Op) → c.Ans} {oldConfig newConfig : Config}

theorem analyses_of_fixed (h : fixedChanged oldConfig newConfig = true) : Analyses w oldConfig newConfig := by
  refine ⟨{ nonRecoverable := true }, newConfig, ?_, fun hn => (by cases hn)⟩
  show Prog.eval w (if fixedChanged oldConfig newConfig then _ else _) = _
  rw [if_pos h]
  rfl

/-- `wordsValid` returns, or throws that the words are invalid. -/
def WordsChecked (w : (c : Op) → c.Ans) : Prop :=
  ∀ seed e, w (.lib (.seedValid seed)) = .error e → e.kind = .InvalidWords

theorem seedsValid_eval (hw : WordsChecked w) (seeds : List (String × String)) :
    (seedsValid seeds).eval w = .ok (decide (∀ e ∈ seeds, w (.lib (.seedValid e.2)) = .ok true)) := by
  induction seeds with
  | nil => rfl
  | cons e seeds ih =>
      have hask : (seedValid e.2).eval w = w (.lib (.seedValid e.2)) := Prog.eval_attempt_ask w _ _ rfl
      have hvalid : Prog.eval w (tryCatch (seedValid e.2) fun err =>
          if err.kind = .InvalidWords then return false else throw err) =
          .ok (decide (w (.lib (.seedValid e.2)) = .ok true)) := by
        rw [Prog.tryCatch_eq, Prog.eval_catches, hask]
        cases h : w (.lib (.seedValid e.2)) with
        | ok valid => cases valid <;> rfl
        | error err =>
            show Prog.eval w (if err.kind = .InvalidWords then return false else throw err) = _
            rw [if_pos (hw e.2 err h)]
            rfl
      show Prog.eval w (Prog.bind _ _) = _
      rw [Prog.eval_bind, hvalid]
      by_cases h : w (.lib (.seedValid e.2)) = .ok true
      · simp only [h, List.forall_mem_cons, true_and]
        exact ih
      · simp only [h, List.forall_mem_cons, false_and]
        rfl

theorem not_analyses_of_crash (hfixed : fixedChanged oldConfig newConfig = false) {e : JsError}
    (h : compareSeeds oldConfig newConfig = .error e) : ¬ Analyses w oldConfig newConfig := by
  rintro ⟨action, config, heval, -⟩
  simp only [analizeConfig, hfixed] at heval
  rw [h] at heval
  cases heval

/-- What the analysis returns when the seeds can be compared. -/
theorem analyses_of_compared (hw : WordsChecked w) (hfixed : fixedChanged oldConfig newConfig = false)
    {stop : Bool} {config : Config} (h : compareSeeds oldConfig newConfig = .ok (stop, config))
    (hbut : config.SameBut { newConfig with enabled_plugins := newConfig.enabled_plugins.map sorted }) :
    Analyses w oldConfig newConfig ↔ SeedRefused w newConfig ∨ stop = true ∨ WalletFieldChanged oldConfig newConfig ∨
      ¬ WalletsOutdated oldConfig newConfig := by
  obtain ⟨multisig, rfl⟩ := hbut
  let config : Config :=
    { newConfig with enabled_plugins := newConfig.enabled_plugins.map sorted, multisig := multisig }
  have heval : (analizeConfig (some oldConfig) newConfig).eval w =
      if ∀ e ∈ newConfig.seedEntries, w (.lib (.seedValid e.2)) = .ok true then .ok (actionFor oldConfig config stop, config)
      else .ok ({ stopAllWallets := stop, nonRecoverable := true }, config) := by
    simp only [analizeConfig, hfixed]
    rw [h]
    show Prog.eval w (Prog.bind (seedsValid newConfig.seedEntries) _) = _
    rw [Prog.eval_bind, seedsValid_eval hw]
    split
    next hall =>
      rw [decide_eq_true hall]
      rfl
    next hall =>
      rw [decide_eq_false hall]
      rfl
  by_cases hall : ∀ e ∈ newConfig.seedEntries, w (.lib (.seedValid e.2)) = .ok true
  · rw [if_pos hall] at heval
    have hrefused : ¬ SeedRefused w newConfig := fun ⟨e, he, hne⟩ => hne (hall e he)
    have hstop : (actionFor oldConfig config stop).stopAllWallets = true ↔ stop = true ∨ WalletFieldChanged oldConfig newConfig :=
      actionFor_stop oldConfig config stop
    have hlib : LibFieldChanged oldConfig newConfig → (actionFor oldConfig config stop).reconfigLib = true :=
      (actionFor_lib oldConfig config stop).mpr
    constructor
    · rintro ⟨action, config', he, hmeets⟩
      rw [heval] at he
      cases he
      have hout := (hmeets rfl).1
      rw [hstop] at hout
      tauto
    · intro hany
      refine ⟨_, _, heval, fun _ => ⟨fun hout => hstop.mpr ?_, hlib⟩⟩
      tauto
  · rw [if_neg hall] at heval
    refine ⟨fun _ => .inl ?_, fun _ => ⟨_, _, heval, fun hn => (by cases hn)⟩⟩
    push Not at hall
    exact hall

/-- The condition on a change that leaves the fixed fields alone: the first old seed that cannot be compared comes after
one that differs; and where no other change stops the wallets, the entries that a start could use are kept when their
key has no seed, and their public keys are when it has one and they are the same text. -/
def Analyzable (w : (c : Op) → c.Ans) (oldConfig newConfig : Config) : Prop :=
  (∀ pre e post, oldConfig.seedEntries = pre ++ e :: post → SeedUnreadable oldConfig newConfig e →
    ∃ x ∈ pre, SeedDiffers oldConfig newConfig x) ∧
  (SeedRefused w newConfig ∨ (∃ e ∈ oldConfig.seedEntries, SeedDiffers oldConfig newConfig e) ∨
    WalletFieldChanged oldConfig newConfig ∨
    ∀ key m, oldConfig.Usable key m →
      (key ∉ oldConfig.seedEntries.map Prod.fst → newConfig.Keeps key m) ∧
      (key ∈ oldConfig.seedEntries.map Prod.fst → ∀ m' ps ps', newConfig.multisigAt key = some m' →
        m.pubkeys = some ps → m'.pubkeys = some ps' → sortedJoin ";" ps' = sortedJoin ";" ps → m.SamePubkeys m'))

/-- A seed that differs comes before each one that cannot be compared when it comes before the first of these. -/
theorem differs_before {seeds pre post : List (String × String)} {e : String × String} (hseeds : seeds = pre ++ e :: post)
    (hpre : ∀ x ∈ pre, ¬ SeedUnreadable oldConfig newConfig x) (he : SeedDiffers oldConfig newConfig e)
    {pre' post' : List (String × String)} {e' : String × String} (hseeds' : seeds = pre' ++ e' :: post')
    (he' : SeedUnreadable oldConfig newConfig e') : ∃ x ∈ pre', SeedDiffers oldConfig newConfig x := by
  rcases List.append_eq_append_iff.mp (hseeds.symm.trans hseeds') with ⟨mid, hpre', hmid⟩ | ⟨mid, hpre', hmid⟩
  · cases mid with
    | nil =>
        cases hmid
        exact absurd he' he.not_unreadable
    | cons x mid =>
        cases hmid
        exact ⟨e, by simp [hpre'], he⟩
  · cases mid with
    | nil =>
        cases hmid
        exact absurd he' he.not_unreadable
    | cons x mid =>
        cases hmid
        exact absurd he' (hpre e' (by simp [hpre']))

/-- When no seed differs, the entries that have seeds are kept but for their public keys. -/
theorem entry_of_same (hall : ∀ x ∈ oldConfig.seedEntries,
    ¬ SeedDiffers oldConfig newConfig x ∧ ¬ SeedUnreadable oldConfig newConfig x) {key : String}
    (hkey : key ∈ oldConfig.seedEntries.map Prod.fst) {m : MultiSigConfig} (hm : oldConfig.multisigAt key = some m) :
    ∃ m' ps ps', newConfig.multisigAt key = some m' ∧ m.SameCounts m' ∧ m.pubkeys = some ps ∧ m'.pubkeys = some ps' ∧
      sortedJoin ";" ps' = sortedJoin ";" ps := by
  obtain ⟨e, he, rfl⟩ := List.mem_map.mp hkey
  obtain ⟨hdiffers, hread⟩ := hall e he
  unfold SeedDiffers at hdiffers
  unfold SeedUnreadable at hread
  push Not at hdiffers hread
  obtain ⟨hsome, hread⟩ := hread
  obtain ⟨seeds, hseeds⟩ := Option.ne_none_iff_exists'.mp hsome
  obtain ⟨hget, hentry⟩ := hdiffers seeds hseeds
  have hunread := hread seeds hseeds hget
  cases hm' : newConfig.multisigAt e.1 with
  | none => exact absurd (entryDiffers_of_none hm hm') hentry
  | some m' =>
      rw [entryDiffers_iff hm hm'] at hentry
      rw [entryUnreadable_iff hm hm'] at hunread
      push Not at hentry hunread
      obtain ⟨hsame, hjoin⟩ := hentry
      obtain ⟨hps, hps'⟩ := hunread hsame
      obtain ⟨ps, hps⟩ := Option.ne_none_iff_exists'.mp hps
      obtain ⟨ps', hps'⟩ := Option.ne_none_iff_exists'.mp hps'
      exact ⟨m', ps, ps', rfl, hsame, hps, hps', hjoin ps ps' hps hps'⟩

/-- When no seed differs, the old seeds are all there. -/
theorem seed_of_same (hall : ∀ x ∈ oldConfig.seedEntries,
    ¬ SeedDiffers oldConfig newConfig x ∧ ¬ SeedUnreadable oldConfig newConfig x) {e : String × String}
    (he : e ∈ oldConfig.seedEntries) : (newConfig.seeds.bind fun seeds => seeds.get e.1) = some e.2 := by
  obtain ⟨hdiffers, hread⟩ := hall e he
  cases hseeds : newConfig.seeds with
  | none => exact absurd (.inl hseeds) hread
  | some seeds =>
      by_contra hne
      exact hdiffers ⟨seeds, hseeds, .inl hne⟩

theorem nodup_seedEntries (config : Config) : (config.seedEntries.map Prod.fst).Nodup := by
  unfold Config.seedEntries
  cases config.seeds with
  | none => exact List.nodup_nil
  | some seeds => exact seeds.nodup

/-- When the analysis returns and asks for all that the change needs. -/
theorem analyses_iff (hw : WordsChecked w) (oldConfig newConfig : Config) : Analyses w oldConfig newConfig ↔
    fixedChanged oldConfig newConfig = true ∨ Analyzable w oldConfig newConfig := by
  cases hfixed : fixedChanged oldConfig newConfig with
  | true => exact ⟨fun _ => .inl rfl, fun _ => analyses_of_fixed hfixed⟩
  | false =>
      rw [or_iff_right (by simp)]
      have hcases := seedsChanged_cases oldConfig (nodup_seedEntries oldConfig)
        { newConfig with enabled_plugins := newConfig.enabled_plugins.map sorted }
      cases hcompare : compareSeeds oldConfig newConfig with
      | error e =>
          rw [show seedsChanged _ _ _ = .error e from hcompare] at hcases
          refine ⟨fun h => absurd h (not_analyses_of_crash hfixed hcompare), fun h => ?_⟩
          cases hcases with
          | @crash pre post x hseeds hpre hx err =>
              obtain ⟨y, hy, hdiffers⟩ := h.1 pre x post hseeds hx
              exact absurd hdiffers (hpre y hy)
      | ok r =>
          rw [show seedsChanged _ _ _ = .ok r from hcompare] at hcases
          cases hcases with
          | @stop pre post x hseeds hpre hx config hbut =>
              rw [analyses_of_compared hw hfixed hcompare hbut]
              refine ⟨fun _ => ⟨fun pre' e post' hseeds' he => ?_, .inr (.inl ⟨x, by simp [hseeds], hx⟩)⟩,
                fun _ => .inr (.inl rfl)⟩
              exact differs_before hseeds hpre hx hseeds' he
          | @same hall config hbut =>
              rw [analyses_of_compared hw hfixed hcompare hbut]
              constructor
              · intro h
                refine ⟨fun pre e post hseeds he => absurd he (hall e (by simp [hseeds])).2, ?_⟩
                rcases h with hrefused | hstop | hfield | hout
                · exact .inl hrefused
                · cases hstop
                · exact .inr (.inr (.inl hfield))
                · refine .inr (.inr (.inr fun key m hm => ?_))
                  have hkeeps : newConfig.Keeps key m := by
                    by_contra hnot
                    exact hout (.inr (.inl ⟨key, m, hm, hnot⟩))
                  refine ⟨fun _ => hkeeps, fun _ m' ps ps' hm' _ _ _ => ?_⟩
                  obtain ⟨m₁, hm₁, -, hpubkeys⟩ := hkeeps
                  rw [hm'] at hm₁
                  cases hm₁
                  exact hpubkeys
              · rintro ⟨-, hrefused | ⟨e, he, hdiffers⟩ | hfield | hkept⟩
                · exact .inl hrefused
                · exact absurd hdiffers (hall e he).1
                · exact .inr (.inr (.inl hfield))
                · refine .inr (.inr (or_iff_not_imp_left.mpr fun hfield => ?_))
                  rintro (⟨e, he, hne⟩ | ⟨key, m, hm, hnot⟩ | hchanged)
                  · exact hne (seed_of_same hall he)
                  · by_cases hkey : key ∈ oldConfig.seedEntries.map Prod.fst
                    · obtain ⟨m', ps, ps', hm', hsame, hps, hps', hjoin⟩ := entry_of_same hall hkey hm.1
                      exact hnot ⟨m', hm', hsame, (hkept key m hm).2 hkey m' ps ps' hm' hps hps' hjoin⟩
                    · exact hnot ((hkept key m hm).1 hkey)
                  · exact hfield hchanged

end

/-- A field that was null and is missing now has changed. -/
example : fixedChanged { network := "mainnet", hsmHost := .null } { network := "mainnet" } = true := by decide

/-- A configuration with one seed, and a multisig entry under another key. -/
def shared (seed : String) (numSignatures : Nat) : Config where
  network := "mainnet"
  seeds := some ⟨[("default", seed)], by simp⟩
  multisig := some ⟨[("shared", ⟨.value 2, .value numSignatures, some ["key", "key'"]⟩)], by simp⟩

def allGranted (c : Op) : c.Ans := c.granted (spending "" 0)

theorem wordsChecked_allGranted : WordsChecked allGranted := fun seed e h => (by cases h)

theorem changedSeed_analyses : Analyses allGranted (shared "words" 1) (shared "others" 2) := by
  have hdiffers : SeedDiffers (shared "words" 1) (shared "others" 2) ("default", "words") :=
    ⟨_, rfl, .inl (by decide)⟩
  refine (analyses_iff wordsChecked_allGranted _ _).mpr (.inr ⟨fun pre e post hseeds he => ?_,
    .inr (.inl ⟨_, List.mem_singleton_self _, hdiffers⟩)⟩)
  cases pre with
  | nil =>
      cases hseeds
      exact absurd he hdiffers.not_unreadable
  | cons x pre => exact absurd (congrArg List.length hseeds) (by simp [shared, Config.seedEntries])

/-- The entry "shared" can be used with any seed: nothing stops when it changes. And without new seeds the analysis
throws. -/
theorem multisig_unseen :
    (shared "words" 1).Usable "shared" ⟨.value 2, .value 1, some ["key", "key'"]⟩ ∧
      ¬ Analyses allGranted (shared "words" 1) (shared "words" 2) ∧
      ¬ Analyses allGranted (shared "words" 1) { network := "mainnet" } := by
  have husable : (shared "words" 1).Usable "shared" ⟨.value 2, .value 1, some ["key", "key'"]⟩ :=
    ⟨rfl, { walletId := some "w", seed := some "words", multisig := some true, multisigKey := some "shared" }, _,
      by decide, rfl, rfl, rfl⟩
  refine ⟨husable, ?_, ?_⟩
  · rintro ⟨action, config, heval, hmeets⟩
    have haction : (analizeConfig (some (shared "words" 1)) (shared "words" 2)).eval allGranted =
        .ok ({}, shared "words" 2) := rfl
    rw [haction] at heval
    cases heval
    have hlost : ¬ (shared "words" 2).Keeps "shared" ⟨.value 2, .value 1, some ["key", "key'"]⟩ := by
      rintro ⟨m, hm, hcounts, -⟩
      cases hm
      exact absurd hcounts.2 (by decide)
    cases (hmeets rfl).1 (.inr (.inl ⟨_, _, husable, hlost⟩))
  · exact not_analyses_of_crash (e := undefinedField "default") (by decide) rfl

end WalletHeadless
