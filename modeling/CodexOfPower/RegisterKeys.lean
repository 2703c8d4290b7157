/-
# `CodexOfPower.RegisterKeys` — one key for all variants

The register key of a form is looked for in two ways: a weapon with a template stands
for its template, and from there the variant map is followed, at most eight links far.
Where no chain of the map is longer, the key is the end of the chain
(`endsAt_getRegisterKey`).

The template is asked for once, before the walk.  So a chain and the key of a form on it
need not agree when templates come in between: keys are canonical exactly when a form's
template leads to where its chain leads (`registerKeys_canonical_iff`), and in
particular when no form on a chain and no template has a template of its own.

## What is not said

Chains of more than eight links are left out by a premise, and so are cycles: there the walk
stops where its steps are over, and the forms of one chain need not have one key
(`not_registerKeys_canonical`).  What the map is read from is in
`CodexOfPower.RegistrationMaps`.
-/
import CodexOfPower.WrappedIds
import CodexOfPower.Lib.Chain

namespace CodexOfPower.Registration

open RE

section Keys

variable {F : Type} [FloatType F] (env : Environment F)

/-- The link from a variant to its base. -/
def variantOf (formId : FormID) : Option FormID := env.variantBase.lookup formId

/-- Where the walk of a form starts. -/
def walkStart (formId : FormID) : FormID := (env.form formId).templateWeapon.getD formId

/-- The game finds every form that the map leads to. -/
def TargetsExist : Prop :=
  ∀ formId baseID, variantOf env formId = some baseID → baseID ≠ 0 ∧ env.lookupByID baseID = true

/-- The key of a key is itself, and the forms of one chain have one key. -/
structure Canonical : Prop where
  idempotent : ∀ formId,
    getRegisterKey env (getRegisterKey env formId) = getRegisterKey env formId
  chain : ∀ formId formId', OnChain (variantOf env) formId formId' →
    getRegisterKey env formId = getRegisterKey env formId'

/-- A form's template leads to where its base's does, and the template of a chain's end
back to it. -/
structure TemplatesAgree : Prop where
  link : ∀ formId baseID, variantOf env formId = some baseID →
    ∃ key, EndsAt (variantOf env) (walkStart env formId) key ∧
      EndsAt (variantOf env) (walkStart env baseID) key
  last : ∀ formId key, EndsAt (variantOf env) (walkStart env formId) key →
    EndsAt (variantOf env) (walkStart env key) key

/-- Forms on a chain and forms that serve as a template have no template. -/
def NoNestedTemplates : Prop :=
  ∀ formId, ((variantOf env formId).isSome = true ∨
      (∃ variant, variantOf env variant = some formId) ∨
      ∃ weapon, (env.form weapon).templateWeapon = some formId) →
    (env.form formId).templateWeapon = none

end Keys

section Canonical

variable {F : Type} {env : Environment F} {formId : FormID}

/-- The checks of the walk never stop it. -/
theorem followVariants_eq_walk {limit : Nat} (hexist : TargetsExist env)
    (hshort : ChainsWithin (variantOf env) limit) (safety : Nat) (regKey : FormID) :
    followVariants env safety regKey = walk (variantOf env) safety regKey := by
  induction safety generalizing regKey with
  | zero => rfl
  | succ safety ih =>
    rw [followVariants, walk]
    cases hbase : variantOf env regKey with
    | none =>
      have hlookup : env.variantBase.lookup regKey = none := hbase
      rw [hlookup]
    | some baseID =>
      have hlookup : env.variantBase.lookup regKey = some baseID := hbase
      obtain ⟨hzero, hfound⟩ := hexist regKey baseID hbase
      have hvalid : isValidVariantStep regKey baseID = true := by
        unfold isValidVariantStep
        rw [Bool.and_eq_true, decide_eq_true_eq, decide_eq_true_eq]
        exact ⟨hzero, ne_of_chainsWithin hshort hbase⟩
      rw [hlookup]
      dsimp only
      rw [hvalid, hfound, Bool.not_true, if_neg Bool.false_ne_true, if_neg Bool.false_ne_true, ih]

/-- The key is the end of the chain. -/
theorem endsAt_getRegisterKey (hnormalize : env.settings.normalizeRegistration = true)
    (hexist : TargetsExist env) (hshort : ChainsWithin (variantOf env) 8) (formId : FormID) :
    EndsAt (variantOf env) (walkStart env formId) (getRegisterKey env formId) := by
  have hkey : getRegisterKey env formId = walk (variantOf env) 8 (walkStart env formId) := by
    unfold getRegisterKey
    rw [hnormalize, Bool.not_true, if_neg Bool.false_ne_true]
    exact followVariants_eq_walk hexist hshort 8 _
  rw [hkey]
  exact endsAt_walk hshort _

theorem templatesAgree_of_noNested (hshort : ChainsWithin (variantOf env) 8)
    (h : NoNestedTemplates env) : TemplatesAgree env := by
  have hstart : ∀ formId, (env.form formId).templateWeapon = none →
      walkStart env formId = formId := by
    intro formId hnone
    unfold walkStart
    rw [hnone]
    rfl
  constructor
  · intro formId baseID hlink
    have hform := hstart formId (h formId (.inl (by rw [hlink]; rfl)))
    have hbase := hstart baseID (h baseID (.inr (.inl ⟨formId, hlink⟩)))
    rw [hform, hbase]
    have hend := endsAt_walk hshort baseID
    exact ⟨_, hend.step hlink, hend⟩
  · rintro formId key ⟨n, hlinks, hlast⟩
    have hkey : walkStart env key = key := by
      rcases hlinks.last with hsame | ⟨variant, hvariant⟩
      · -- the walk took no link: the key is the template, or the form that has none
        cases htemplate : (env.form formId).templateWeapon with
        | none =>
          have hself := hstart formId htemplate
          rw [hself] at hsame
          exact hsame ▸ hself
        | some template =>
          have hself : walkStart env formId = template := by
            unfold walkStart
            rw [htemplate]
            rfl
          rw [hself] at hsame
          exact hstart key (h key (.inr (.inr ⟨formId, hsame ▸ htemplate⟩)))
      · exact hstart key (h key (.inr (.inl ⟨variant, hvariant⟩)))
    rw [hkey]
    exact .self hlast

theorem templatesAgree_of_canonical (hnormalize : env.settings.normalizeRegistration = true)
    (hexist : TargetsExist env) (hshort : ChainsWithin (variantOf env) 8) (h : Canonical env) :
    TemplatesAgree env := by
  have hend := endsAt_getRegisterKey hnormalize hexist hshort
  constructor
  · intro formId baseID hlink
    have hsame := h.chain formId baseID (.single hlink)
    exact ⟨_, hend formId, hsame ▸ hend baseID⟩
  · intro formId key hkey
    obtain rfl := hkey.unique (hend formId)
    have hlast := hend (getRegisterKey env formId)
    rw [h.idempotent] at hlast
    exact hlast

theorem canonical_of_templatesAgree (hnormalize : env.settings.normalizeRegistration = true)
    (hexist : TargetsExist env) (hshort : ChainsWithin (variantOf env) 8)
    (h : TemplatesAgree env) : Canonical env := by
  have hend := endsAt_getRegisterKey hnormalize hexist hshort
  constructor
  · intro formId
    exact (hend _).unique (h.last formId _ (hend formId))
  · intro formId formId' hchain
    refine hchain.congr fun formId baseID hlink => ?_
    obtain ⟨key, hform, hbase⟩ := h.link formId baseID hlink
    exact ((hend formId).unique hform).trans ((hend baseID).unique hbase).symm

end Canonical

/-! ## The keys -/

/-- Where no chain has more than eight links, keys are canonical exactly when templates
agree with the chains; so they are when no form on a chain and no template has a template
of its own. -/
theorem registerKeys_canonical_iff {F : Type} (env : Environment F)
    (hnormalize : env.settings.normalizeRegistration = true) (hexist : TargetsExist env)
    (hshort : ChainsWithin (variantOf env) 8) :
    (Canonical env ↔ TemplatesAgree env) ∧ (NoNestedTemplates env → Canonical env) := by
  refine ⟨⟨templatesAgree_of_canonical hnormalize hexist hshort,
    canonical_of_templatesAgree hnormalize hexist hshort⟩, fun hnested => ?_⟩
  exact canonical_of_templatesAgree hnormalize hexist hshort
    (templatesAgree_of_noNested hshort hnested)

/-- The game with a variant map, and with a template for some form. -/
def variants (mappings : List (FormID × FormID)) (form : FormID → Form) : Environment Float32 :=
  { Session.armory 1 0 with variantBase := UnorderedMap.insertAll mappings ∅, form }

theorem mem_of_variantOf {mappings : List (FormID × FormID)} {form : FormID → Form}
    (hnodup : (mappings.map Prod.fst).Nodup) {formId baseID : FormID}
    (h : variantOf (variants mappings form) formId = some baseID) : (formId, baseID) ∈ mappings :=
  (UnorderedMap.lookup_insertAll_iff hnodup).mp h

/-- Four links, and a template that is further along the chain. -/
def templatedChain : Environment Float32 :=
  variants [(1, 2), (2, 3), (3, 4), (4, 5)] fun formId =>
    { templateWeapon := if formId = 2 then some 4 else none }

theorem templatedChain_links {formId baseID : FormID}
    (h : variantOf templatedChain formId = some baseID) :
    (formId = 1 ∧ baseID = 2) ∨ (formId = 2 ∧ baseID = 3) ∨ (formId = 3 ∧ baseID = 4) ∨
      (formId = 4 ∧ baseID = 5) := by
  simpa using mem_of_variantOf (by decide) h

/-- All of the chain ends in 5, from where the template of the second form leads as well. -/
theorem templatesAgree_templatedChain : TemplatesAgree templatedChain := by
  have hfive : EndsAt (variantOf templatedChain) 5 5 := .self rfl
  have hfour : EndsAt (variantOf templatedChain) 4 5 := .step rfl hfive
  have hthree : EndsAt (variantOf templatedChain) 3 5 := .step rfl hfour
  have htwo : EndsAt (variantOf templatedChain) 2 5 := .step rfl hthree
  have hone : EndsAt (variantOf templatedChain) 1 5 := .step rfl htwo
  constructor
  · intro formId baseID hlink
    rcases templatedChain_links hlink with
      ⟨rfl, rfl⟩ | ⟨rfl, rfl⟩ | ⟨rfl, rfl⟩ | ⟨rfl, rfl⟩
    · exact ⟨5, hone, hfour⟩
    · exact ⟨5, hfour, hthree⟩
    · exact ⟨5, hthree, hfour⟩
    · exact ⟨5, hfour, hfive⟩
  · rintro formId key ⟨n, -, hend⟩
    -- the form with the template is no end
    have hkey : key ≠ 2 := by
      rintro rfl
      exact Option.some_ne_none (3 : FormID) hend
    have hstart : walkStart templatedChain key = key := by
      have htemplate : (templatedChain.form key).templateWeapon = none := if_neg hkey
      unfold walkStart
      rw [htemplate]
      rfl
    rw [hstart]
    exact .self hend

theorem registerKeys_canonical_iff_templatedChain : Canonical templatedChain := by
  have hrise : ∀ formId baseID, variantOf templatedChain formId = some baseID →
      formId.toNat < baseID.toNat ∧ baseID.toNat ≤ 8 := by
    intro formId baseID hlink
    rcases templatedChain_links hlink with
      ⟨rfl, rfl⟩ | ⟨rfl, rfl⟩ | ⟨rfl, rfl⟩ | ⟨rfl, rfl⟩ <;> decide
  have hexist : TargetsExist templatedChain := by
    intro formId baseID hlink
    refine ⟨?_, rfl⟩
    rcases templatedChain_links hlink with
      ⟨-, rfl⟩ | ⟨-, rfl⟩ | ⟨-, rfl⟩ | ⟨-, rfl⟩ <;> decide
  exact (registerKeys_canonical_iff templatedChain rfl hexist (chainsWithin_of_rank hrise)).1.mpr
    templatesAgree_templatedChain

/-- Nine links, and no template. -/
def nineLinks : Environment Float32 :=
  variants [(1, 2), (2, 3), (3, 4), (4, 5), (5, 6), (6, 7), (7, 8), (8, 9), (9, 10)] fun _ => {}

/-- One link, to a form that has a template. -/
def templatedBase : Environment Float32 :=
  variants [(1, 2)] fun formId => { templateWeapon := if formId = 2 then some 3 else none }

theorem nineLinks_rise {formId baseID : FormID} (h : variantOf nineLinks formId = some baseID) :
    formId.toNat < baseID.toNat ∧ baseID ≠ 0 := by
  have hrise : ∀ mapping ∈ [((1 : FormID), (2 : FormID)), (2, 3), (3, 4), (4, 5), (5, 6), (6, 7),
      (7, 8), (8, 9), (9, 10)], mapping.1.toNat < mapping.2.toNat ∧ mapping.2 ≠ 0 := by simp
  exact hrise (formId, baseID) (mem_of_variantOf (by decide) h)

theorem templatedBase_links {formId baseID : FormID}
    (h : variantOf templatedBase formId = some baseID) : formId = 1 ∧ baseID = 2 := by
  simpa using mem_of_variantOf (by decide) h

/-- Along the nine links the keys are 9 and then 10, and at the templated base 2 and then
3: chains have to be shorter, and templates to agree. -/
theorem not_registerKeys_canonical :
    (¬ ∀ env : Environment Float32, env.settings.normalizeRegistration = true →
      Acyclic (variantOf env) → TargetsExist env →
      (∀ formId, (env.form formId).templateWeapon = none) → Canonical env) ∧
    ¬ ∀ env : Environment Float32, env.settings.normalizeRegistration = true →
      Acyclic (variantOf env) → TargetsExist env → ChainsWithin (variantOf env) 8 →
      Canonical env := by
  constructor
  · intro h
    have hacyclic : Acyclic (variantOf nineLinks) :=
      acyclic_of_rank fun _ _ hlink => (nineLinks_rise hlink).1
    have hcanonical := h nineLinks rfl hacyclic
      (fun _ _ hlink => ⟨(nineLinks_rise hlink).2, rfl⟩) fun _ => rfl
    have hlink : variantOf nineLinks 1 = some 2 := rfl
    have hkeys : getRegisterKey nineLinks 1 = 9 ∧ getRegisterKey nineLinks 2 = 10 := ⟨rfl, rfl⟩
    have hsame := hcanonical.chain 1 2 (.single hlink)
    rw [hkeys.1, hkeys.2] at hsame
    exact absurd hsame (by decide)
  · intro h
    have hrise : ∀ formId baseID, variantOf templatedBase formId = some baseID →
        formId.toNat < baseID.toNat ∧ baseID.toNat ≤ 8 := by
      intro formId baseID hlink
      obtain ⟨rfl, rfl⟩ := templatedBase_links hlink
      decide
    have hexist : TargetsExist templatedBase := by
      intro formId baseID hlink
      obtain ⟨-, rfl⟩ := templatedBase_links hlink
      exact ⟨by decide, rfl⟩
    have hcanonical := h templatedBase rfl
      (acyclic_of_rank fun _ _ hlink => (hrise _ _ hlink).1) hexist (chainsWithin_of_rank hrise)
    exact absurd (hcanonical.chain 1 2 (.single rfl)) (by decide)

end CodexOfPower.Registration
