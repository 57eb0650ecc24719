import WalletHeadless.Hsm.KeyStore

/-!
# The account and change keys on the HSM

`deriveMainKeysFromRoot` derives the account key through two temporary keys whose names are the same for every root
key. A run may fail at any of its calls and leave them behind.

* `MainApart`: no root key has the name of an account or change key;
* `MainMeant`: what the names of root, account and change keys are meant for;
* `wp_deriveMainKeysFromRoot`: a run keeps that, and ends with both keys;
* `KeyRuns`: the keys after any runs, new root keys and ends of sessions;
* `mainKeys_right`.
-/

namespace WalletHeadless

open Coop Js Keys

/-- No root key has the name of an account or change key. -/
def MainApart (roots : Set String) : Prop :=
  ∀ root ∈ roots, ∀ root' ∈ roots, keyName root .account ≠ root' ∧ keyName root .change ≠ root'

namespace Hsm

variable {Key : Type} {H : Hsm Key} {roots : Set String} {s : Store String Key}

/-- What the names of the root, account and change keys are meant for. -/
structure MainMeant (H : Hsm Key) (roots : Set String) (name : String) (key : Key) : Prop where
  account : ∀ root ∈ roots, name = keyName root .account → key = H.keyAt root .account
  change : ∀ root ∈ roots, name = keyName root .change → key = H.keyAt root .change
  /-- A root key may have the name of a temporary key. -/
  root : name ∈ roots → name ≠ HTR_CKD_BIP_KEYNAME → name ≠ HTR_CKD_COIN_KEYNAME → key = H.rootKey name

theorem mainMeant_bip (key : Key) : H.MainMeant roots HTR_CKD_BIP_KEYNAME key :=
  ⟨fun _ _ h => absurd h.symm (keyName_ne (by rintro ⟨⟩)).1, fun _ _ h => absurd h.symm (keyName_ne (by rintro ⟨⟩)).1,
    fun _ h => absurd rfl h⟩

theorem mainMeant_coin (key : Key) : H.MainMeant roots HTR_CKD_COIN_KEYNAME key :=
  ⟨fun _ _ h => absurd h.symm (keyName_ne (by rintro ⟨⟩)).2, fun _ _ h => absurd h.symm (keyName_ne (by rintro ⟨⟩)).2,
    fun _ _ h => absurd rfl h⟩

/-- The names of account and change keys tell the root keys apart. -/
theorem mainName_inj (h : MainApart roots) {root root' : String} (hroot : root ∈ roots) (hroot' : root' ∈ roots)
    {l l' : KeyLevel} (hl : l = .account ∨ l = .change) (hl' : l' = .account ∨ l' = .change)
    (heq : keyName root l = keyName root' l') : root = root' ∧ l = l' := by
  have hapart {root root' : String} (hroot : root ∈ roots) (hroot' : root' ∈ roots) {l : KeyLevel}
      (hl : l = .account ∨ l = .change) : keyName root l ≠ root' := by
    rcases hl with rfl | rfl
    · exact (h root hroot root' hroot').1
    · exact (h root hroot root' hroot').2
  rcases keyName_eq heq with hsame | ⟨-, heq⟩ | ⟨-, heq⟩
  · exact hsame
  · exact absurd heq.symm (hapart hroot hroot' hl)
  · exact absurd heq.symm (hapart hroot' hroot hl')

theorem mainMeant_account (h : MainApart roots) {root : String} (hroot : root ∈ roots) :
    H.MainMeant roots (keyName root .account) (H.keyAt root .account) := by
  refine ⟨fun root' hroot' heq => ?_, fun root' hroot' heq => ?_, fun hname => absurd rfl (h root hroot _ hname).1⟩
  · rw [(mainName_inj h hroot hroot' (.inl rfl) (.inl rfl) heq).1]
  · cases (mainName_inj h hroot hroot' (.inl rfl) (.inr rfl) heq).2

theorem mainMeant_change (h : MainApart roots) {root : String} (hroot : root ∈ roots) :
    H.MainMeant roots (keyName root .change) (H.keyAt root .change) := by
  refine ⟨fun root' hroot' heq => ?_, fun root' hroot' heq => ?_, fun hname => absurd rfl (h root hroot _ hname).2⟩
  · cases (mainName_inj h hroot hroot' (.inr rfl) (.inl rfl) heq).2
  · rw [(mainName_inj h hroot hroot' (.inr rfl) (.inr rfl) heq).1]

/-! ## One run -/

/-- A derivation whose child is one that its name is meant for. -/
theorem wp_derives {meant : String → Key → Prop} {version : DerivationVersion} {i : Nat} {exportable temporary : Bool}
    {parent name : String} (hs : s.Respects meant)
    (hmeant : ∀ e, s name = none → s parent = some e → meant name (H.child e.key i)) :
    (H.keeping fun s => s.Respects meant).wp
      (createBip32ChildKeyDerivation version i exportable temporary parent name) s
      (fun _ s' => s'.Respects meant ∧ s name = none ∧
        ∃ e, s parent = some e ∧ s' = Function.update s name (some ⟨H.child e.key i, temporary⟩))
      fun _ s' => s'.Respects meant :=
  wp_createBip32ChildKeyDerivation hs
    (fun e hfree he => ⟨hs.update (hmeant e hfree he), hfree, e, he, rfl⟩) (fun _ _ => hs)
    fun _ e hfree he _ => hs.update (hmeant e hfree he)

theorem wp_hsmKeyExists {inv : Store String Key → Prop} (hs : inv s) (name : String)
    {post : Bool → Store String Key → Prop} {fail : JsError → Store String Key → Prop}
    (htrue : ∀ e, s name = some e → post true s) (hfalse : post false s) (hfail : ∀ e, fail e s) :
    (H.keeping inv).wp (await (hsmKeyExists name)) s post fail := by
  refine wp_await ((Protocol.wp_tryCatch ..).mpr ((Protocol.wp_bind ..).mpr ((Protocol.wp_attempt ..).mpr
    ⟨hs, fun r hr => ⟨fun a ha => ?_, fun e he => ?_⟩⟩)))
  · subst ha
    obtain ⟨e, he⟩ : ∃ e, s name = some e := hr
    exact ⟨hs, htrue e he⟩
  · refine (Protocol.wp_ite ..).mpr ⟨fun _ => ?_, fun _ => ⟨hs, hfail e⟩⟩
    exact (Protocol.wp_bind ..).mpr (wp_underived (delay_underived 500) hs (fun _ => ⟨hs, hfalse⟩) fun e => ⟨hs, hfail e⟩)

/-- From a root key to its account key, through two temporary keys that this run has derived itself. -/
theorem wp_deriveAcctKey (h : MainApart roots) {root : String} (hroot : root ∈ roots) (version : DerivationVersion)
    (hs : s.Respects (H.MainMeant roots)) :
    (H.keeping fun s => s.Respects (H.MainMeant roots)).wp (deriveAcctKey version root) s
      (fun _ s' => s'.Respects (H.MainMeant roots) ∧ ∃ e, s' (keyName root .account) = some e)
      fun _ s' => s'.Respects (H.MainMeant roots) := by
  refine (Protocol.wp_bind ..).mpr (Protocol.wp_mono _ (wp_derives hs fun e _ _ => mainMeant_bip _)
    (fun _ s₁ h₁ => ?_) fun _ _ h => h)
  obtain ⟨hs₁, hbip, e, he, rfl⟩ := h₁
  refine (Protocol.wp_bind ..).mpr (Protocol.wp_mono _ (wp_derives hs₁ fun e _ _ => mainMeant_coin _)
    (fun _ s₂ h₂ => ?_) fun _ _ h => h)
  obtain ⟨hs₂, hcoin, e₁, he₁, rfl⟩ := h₂
  -- the names of both temporary keys were free, so the root key has none of them
  have hcoin : s HTR_CKD_COIN_KEYNAME = none := by rwa [Function.update_of_ne (by decide)] at hcoin
  have hkey : e.key = H.rootKey root := by
    refine (hs root e he).root hroot ?_ ?_
    · rintro rfl
      rw [hbip] at he
      cases he
    · rintro rfl
      rw [hcoin] at he
      cases he
  rw [Function.update_self] at he₁
  cases he₁
  refine Protocol.wp_mono _ (wp_derives hs₂ fun e₂ _ he₂ => ?_) (fun _ s₃ h₃ => ?_) fun _ _ h => h
  · rw [Function.update_self] at he₂
    cases he₂
    rw [hkey]
    exact mainMeant_account h hroot
  · obtain ⟨hs₃, -, e₂, -, rfl⟩ := h₃
    exact ⟨hs₃, _, Function.update_self ..⟩

/-- A run keeps what the names are meant for, and ends with both keys. -/
theorem wp_deriveMainKeysFromRoot (h : MainApart roots) {root : String} (hroot : root ∈ roots)
    (hs : s.Respects (H.MainMeant roots)) :
    (H.keeping fun s => s.Respects (H.MainMeant roots)).wp (deriveMainKeysFromRoot root) s
      (fun _ s' => s'.Respects (H.MainMeant roots) ∧ (∃ e, s' (keyName root .account) = some e) ∧
        ∃ e, s' (keyName root .change) = some e)
      fun _ s' => s'.Respects (H.MainMeant roots) := by
  -- once the account key is there
  have hchange (s : Store String Key) (hs : s.Respects (H.MainMeant roots))
      (haccount : ∃ e, s (keyName root .account) = some e) (version : DerivationVersion) :
      (H.keeping fun s => s.Respects (H.MainMeant roots)).wp (do
        let changePathExists ← await (hsmKeyExists (getChangeKeyname root))
        if changePathExists then pure ()
        else createBip32ChildKeyDerivation version 0 false false (getAcctKeyname root) (getChangeKeyname root)) s
        (fun _ s' => s'.Respects (H.MainMeant roots) ∧ (∃ e, s' (keyName root .account) = some e) ∧
          ∃ e, s' (keyName root .change) = some e)
        fun _ s' => s'.Respects (H.MainMeant roots) := by
    refine (Protocol.wp_bind ..).mpr (wp_hsmKeyExists hs _ (fun e he => ⟨hs, haccount, e, he⟩) ?_ fun _ => hs)
    refine Protocol.wp_mono _ (wp_derives hs fun e _ he => ?_) (fun _ s' h' => ?_) fun _ _ h => h
    · rw [(hs _ e he).account root hroot rfl]
      exact mainMeant_change h hroot
    · obtain ⟨hs', hfree, e, he, rfl⟩ := h'
      refine ⟨hs', ?_, _, Function.update_self ..⟩
      obtain ⟨e', he'⟩ := haccount
      refine ⟨e', ?_⟩
      have hne : keyName root .account ≠ getChangeKeyname root := by
        intro heq
        rw [heq, hfree] at he'
        cases he'
      rw [Function.update_of_ne hne, he']
  refine (Protocol.wp_bind ..).mpr (wp_hsmKeyExists hs _ (fun e he => ?_) ?_ fun _ => hs)
  · exact (Protocol.wp_bind ..).mpr (wp_underived getConfig_underived hs (fun config => hchange s hs ⟨e, he⟩ _) fun _ => hs)
  · refine (Protocol.wp_bind ..).mpr (wp_underived getConfig_underived hs (fun config => ?_) fun _ => hs)
    exact (Protocol.wp_bind ..).mpr (Protocol.wp_mono _ (wp_deriveAcctKey h hroot _ hs)
      (fun _ s' h' => hchange s' h'.1 h'.2 _) fun _ _ h => h)

/-! ## Any runs -/

/-- Keys on the HSM before any run. -/
def Fresh (H : Hsm Key) (roots : Set String) (s : Store String Key) : Prop :=
  ∀ root ∈ roots, s (keyName root .account) = none ∧ s (keyName root .change) = none ∧
    ∀ e, s root = some e → e.key = H.rootKey root

/-- The keys on the HSM after runs that have ended, failed or been cut off anywhere, after new root keys and ends of
sessions. -/
inductive KeyRuns (H : Hsm Key) (roots : Set String) : Store String Key → Prop
  | fresh {s : Store String Key} (h : H.Fresh roots s) : KeyRuns H roots s
  | created {s : Store String Key} (hs : KeyRuns H roots s) {root : String} (hroot : root ∈ roots)
      (hfree : s root = none) : KeyRuns H roots (Function.update s root (some ⟨H.rootKey root, false⟩))
  | run {s : Store String Key} (hs : KeyRuns H roots s) {root : String} (hroot : root ∈ roots) {t : Log}
      {p : Async Unit} (ht : Steps (deriveMainKeysFromRoot root) t p) (htold : H.Told s t) :
      KeyRuns H roots (H.after s t)
  | ended {s s' : Store String Key} (hs : KeyRuns H roots s) (h : s.Fades s') : KeyRuns H roots s'

theorem respects_of_fresh (h : H.Fresh roots s) : s.Respects (H.MainMeant roots) := by
  intro name e he
  refine ⟨fun root hroot hname => ?_, fun root hroot hname => ?_, fun hname _ _ => (h name hname).2.2 e he⟩
  · rw [hname, (h root hroot).1] at he
    cases he
  · rw [hname, (h root hroot).2.1] at he
    cases he

/-- Wherever a run is cut off, the names are kept. -/
theorem respects_of_run (h : MainApart roots) {root : String} (hroot : root ∈ roots)
    (hs : s.Respects (H.MainMeant roots)) {t : Log} {p : Async Unit} (ht : Steps (deriveMainKeysFromRoot root) t p)
    (htold : H.Told s t) : (H.after s t).Respects (H.MainMeant roots) := by
  have hwp := wp_trace (wp_deriveMainKeysFromRoot h hroot hs) ht htold
  cases p with
  | ret a => exact hwp.1
  | throw e => exact hwp
  | op c k => exact hwp.1

theorem KeyRuns.respects (h : MainApart roots) (hs : H.KeyRuns roots s) : s.Respects (H.MainMeant roots) := by
  induction hs with
  | fresh hfresh => exact respects_of_fresh hfresh
  | created _ hroot _ ih =>
      exact ih.update ⟨fun root' hroot' heq => absurd heq.symm (h root' hroot' _ hroot).1,
        fun root' hroot' heq => absurd heq.symm (h root' hroot' _ hroot).2, fun _ _ _ => rfl⟩
  | run _ hroot ht htold ih => exact respects_of_run h hroot ih ht htold
  | ended _ hfades ih => exact ih.fades hfades

end Hsm

/-- Whatever runs there have been, every account and change key is the one that its name says, and a run that returns leaves
both for its root key. -/
theorem mainKeys_right {Key : Type} (H : Hsm Key) (roots : Set String) (hroots : MainApart roots)
    {s : Store String Key} (hs : H.KeyRuns roots s) :
    (∀ root ∈ roots, (∀ e, s (keyName root .account) = some e → e.key = H.keyAt root .account) ∧
        ∀ e, s (keyName root .change) = some e → e.key = H.child (H.keyAt root .account) 0) ∧
      ∀ root ∈ roots, ∀ t, Steps (deriveMainKeysFromRoot root) t (.ret ()) → H.Told s t →
        (∃ e, H.after s t (keyName root .account) = some e) ∧ ∃ e, H.after s t (keyName root .change) = some e := by
  have hmeant := hs.respects hroots
  refine ⟨fun root hroot => ⟨fun e he => ?_, fun e he => ?_⟩, fun root hroot t ht htold => ?_⟩
  · exact (hmeant _ e he).account root hroot rfl
  · exact (hmeant _ e he).change root hroot rfl
  · exact (Hsm.wp_trace (Hsm.wp_deriveMainKeysFromRoot hroots hroot hmeant) ht htold).2

/-! A run for one root key that fails at its second derivation, the end of its session, and a run for another. -/

def bothRoots : Store String (String × List Nat) := fun name =>
  if name = "first" ∨ name = "second" then some ⟨(name, []), false⟩ else none

/-- Nothing is found by its name, and the derivation of `failing` fails. -/
def notFound (failing : String) : (c : Op) → c.Ans
  | .registry .getConfig => .ok { network := "mainnet" }
  | .lib (.getKeyInfo _) => .error { message := "ERR_CANNOT_OPEN_OBJ", errorCode := some ERR_CANNOT_OPEN_OBJ }
  | .lib (.createBip32ChildKeyDerivation _ _ _ _ _ name) =>
    if name = failing then .error { message := "ERR_CONN" } else .ok ()
  | c => c.granted { hash := "", inputs := [] }

def firstRun : Log × Except JsError Unit :=
  (deriveMainKeysFromRoot "first").run fun _ => notFound HTR_CKD_COIN_KEYNAME

/-- What the first run leaves, without its temporary key. -/
def firstLeft : Store String (String × List Nat) :=
  Function.update (pathHsm.after bothRoots firstRun.1) HTR_CKD_BIP_KEYNAME none

def secondRun : Log × Except JsError Unit := (deriveMainKeysFromRoot "second").run fun _ => notFound ""

theorem otherRoots_mainApart : MainApart {"first", "second"} := by
  have hne : ∀ root ∈ ({"first", "second"} : Set String), ∀ root' ∈ ({"first", "second"} : Set String),
      keyName root .account ≠ root' ∧ keyName root .change ≠ root' := by
    rintro root (rfl | rfl) root' (rfl | rfl) <;> decide
  exact hne

theorem firstLeft_keyRuns : pathHsm.KeyRuns {"first", "second"} firstLeft := by
  have hfresh : pathHsm.Fresh {"first", "second"} bothRoots := by
    rintro root (rfl | rfl)
    · exact ⟨rfl, rfl, fun e he => by cases he; rfl⟩
    · exact ⟨rfl, rfl, fun e he => by cases he; rfl⟩
  have hfirst : "first" ∈ ({"first", "second"} : Set String) := by simp
  have hrun := (Hsm.KeyRuns.fresh hfresh).run hfirst (Prog.steps_run _ fun _ => notFound HTR_CKD_COIN_KEYNAME)
    ⟨trivial, trivial, trivial, trivial, trivial, rfl, by rintro ⟨⟩, trivial⟩
  refine hrun.ended fun name => ?_
  by_cases hname : name = HTR_CKD_BIP_KEYNAME
  · subst hname
    exact .inr ⟨Function.update_self .., _, rfl, rfl⟩
  · exact .inl (Function.update_of_ne hname ..)

theorem secondRun_right :
    (∀ root ∈ ({"first", "second"} : Set String),
      (∀ e, firstLeft (keyName root .account) = some e → e.key = pathHsm.keyAt root .account) ∧
        ∀ e, firstLeft (keyName root .change) = some e → e.key = pathHsm.child (pathHsm.keyAt root .account) 0) ∧
      (∃ e, pathHsm.after firstLeft secondRun.1 "second_htrAcct" = some e) ∧
        ∃ e, pathHsm.after firstLeft secondRun.1 "second_htrChange0" = some e := by
  obtain ⟨hright, hreturns⟩ := mainKeys_right pathHsm {"first", "second"} otherRoots_mainApart firstLeft_keyRuns
  refine ⟨hright, hreturns "second" (by simp) secondRun.1 (Prog.steps_run _ fun _ => notFound "") ?_⟩
  exact ⟨trivial, trivial, trivial, trivial, trivial, rfl, rfl, rfl, trivial, trivial, trivial, trivial, rfl, trivial⟩

end WalletHeadless
