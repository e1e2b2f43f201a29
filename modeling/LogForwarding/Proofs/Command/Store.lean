import LogForwarding.Proofs.Command.Outcome
import LogForwarding.Proofs.Route.Store

/-!
# The store of a command

Settings without fault do not describe a multi tenant store without a name: such a store has no
gateway. The command line can change the kind and the name of the store, and it does so after
the settings have been checked, with no check behind it. So a command can come to a multi tenant
store without a name after all. It then splits the pipelines that send to `default` and makes
none of the outputs that their parts send to.

## What is proved

* `StoreOptions.exists_isNameless_iff`: the command lines that leave a store without its name.
* `Spec.fansOutInto_of_migrate`: a multi tenant store has outputs for all tenants, or for none.
* `isNameless_iff_unnames`: a command makes the outputs of all known tenants iff its command line
  does not leave the store without its name.
* `exists_isNameless_resolve`: a command line that does.
-/

namespace LogForwarding

open Reserved (tenantOutput)

/-- Whether a store lacks the name that its gateway goes by. -/
def Store.IsNameless (store : Store) : Prop := store.isMultiTenant ∧ store.name = ""

instance (store : Store) : Decidable store.IsNameless :=
  inferInstanceAs (Decidable (_ ∧ _))

namespace StoreOptions

variable {options : StoreOptions} {settings : Settings}

/-- Whether a command line leaves the store of settings without a name that it needs. -/
inductive Unnames (options : StoreOptions) (settings : Settings) : Prop where
  /-- It takes the name of a multi tenant store away. -/
  | emptied (hkind : options.kind settings.store.kind = .ok .lokiStack)
      (hname : options.storeName = some "")
  /-- It asks for a multi tenant store, and there is no name for it. -/
  | switched {typed : String} (htyped : options.store = some typed)
      (hkind : StoreKind.ofTyped? typed = some .lokiStack) (hname : options.storeName = none)
      (hsettings : settings.store.name = "")

theorem kind_eq_ok_iff {usual kind : StoreKind} : options.kind usual = .ok kind ↔
    (options.store = none ∧ usual = kind)
      ∨ ∃ typed, options.store = some typed ∧ StoreKind.ofTyped? typed = some kind := by
  unfold StoreOptions.kind
  cases options.store with
  | none => simp
  | some typed => cases hkind : StoreKind.ofTyped? typed <;> simp [hkind]

/-- The store of a command has the kind and the name of the command line, if it says any. -/
theorem resolve_eq_ok_some_iff {store : Store} : options.resolve settings = .ok (some store) ↔
    options.kind settings.store.kind = .ok store.kind ∧ store.isConfigured
      ∧ { settings.store with
          kind := store.kind, name := options.storeName.getD settings.store.name } = store := by
  simp only [resolve, bind_eq_ok_iff, pure_eq_ok_iff, Settings.store?]
  constructor
  · rintro ⟨kind, hkind, hstore⟩
    split_ifs at hstore with hconfigured
    obtain rfl := Option.some.inj hstore
    exact ⟨hkind, hconfigured, rfl⟩
  · rintro ⟨hkind, hconfigured, hstore⟩
    refine ⟨store.kind, hkind, ?_⟩
    rw [hstore, if_pos hconfigured]

/-- A command line that asks for a multi tenant store, under whatever name, is given it. -/
theorem exists_resolve_of_lokiStack (h : options.kind settings.store.kind = .ok .lokiStack) :
    ∃ store, options.resolve settings = .ok (some store) ∧ store.isMultiTenant
      ∧ store.name = options.storeName.getD settings.store.name :=
  ⟨{ settings.store with
      kind := .lokiStack, name := options.storeName.getD settings.store.name },
    resolve_eq_ok_some_iff.2 ⟨h, rfl, rfl⟩, rfl, rfl⟩

/-- **Command lines that leave a store without its name**: with settings without fault, those that
take the name of a multi tenant store away, or that ask for one without a name. -/
theorem exists_isNameless_iff (h : settings.invalid? = none) :
    (∃ store, options.resolve settings = .ok (some store) ∧ store.IsNameless) ↔
      options.Unnames settings := by
  constructor
  · rintro ⟨store, hresolve, hmulti, hempty⟩
    obtain ⟨hkind, -, hstore⟩ := resolve_eq_ok_some_iff.1 hresolve
    rw [Store.isMultiTenant_iff.1 hmulti] at hkind
    rw [← hstore] at hempty
    cases hoption : options.storeName with
    | some name =>
      have hname : options.storeName.getD settings.store.name = "" := hempty
      rw [hoption, Option.getD_some] at hname
      exact .emptied hkind (hname ▸ hoption)
    | none =>
      have hname : options.storeName.getD settings.store.name = "" := hempty
      rw [hoption, Option.getD_none] at hname
      rcases kind_eq_ok_iff.1 hkind with ⟨-, husual⟩ | ⟨typed, htyped, hread⟩
      · -- the store is that of the settings, which have been checked
        exact absurd hname ((Settings.invalid?_eq_none_iff.1 h).2.2.2
          (Store.isMultiTenant_iff.2 husual))
      · exact .switched htyped hread hoption hname
  · intro hunnames
    cases hunnames with
    | emptied hkind hname =>
      obtain ⟨store, hresolve, hmulti, hempty⟩ := exists_resolve_of_lokiStack hkind
      exact ⟨store, hresolve, hmulti, by rw [hempty, hname, Option.getD_some]⟩
    | switched htyped hkind hname hsettings =>
      obtain ⟨store, hresolve, hmulti, hempty⟩ :=
        exists_resolve_of_lokiStack (kind_eq_ok_iff.2 (.inr ⟨_, htyped, hkind⟩))
      exact ⟨store, hresolve, hmulti, by rw [hempty, hname, Option.getD_none, hsettings]⟩

/-- A multi tenant store is left its name iff the command line does not leave it without. -/
theorem name_eq_empty_iff {store : Store} (h : settings.invalid? = none)
    (hresolve : options.resolve settings = .ok (some store)) (hmulti : store.isMultiTenant) :
    store.name = "" ↔ options.Unnames settings := by
  rw [← exists_isNameless_iff h]
  constructor
  · exact fun hempty => ⟨store, hresolve, hmulti, hempty⟩
  · rintro ⟨other, hother, -, hempty⟩
    obtain rfl := Option.some.inj (Except.ok.inj (hresolve.symm.trans hother))
    exact hempty

end StoreOptions

/-! ### What a command makes of the store -/

namespace Spec

/-- What a run makes of a specification with a multi tenant store: it adds outputs of tenants,
and the tenants of all inputs of known kinds that are needed have one iff the store has
a name. -/
def FansOutInto (spec : Spec) (migrated : Migrated) (named : Prop) : Prop :=
  ∃ made, migrated.spec.outputs = spec.outputs ++ made
    ∧ ∀ input ∈ Tenant.neededInputs spec.started.pipelines,
        ∀ kind, Input.resolve? spec.started.inputs input = some kind →
          ((∃ output ∈ made, output.name = tenantOutput input) ↔ named)

variable {spec : Spec} {store : Store} {operator : Operator} {migrated : Migrated}

theorem fansOutInto_of_migrate (hmulti : store.isMultiTenant)
    (h : (spec.migrate (some store) operator).value = .ok migrated) :
    spec.FansOutInto migrated (store.name ≠ "") := by
  have hspec := (fits_of_migrate (Store.isConfigured_of_isMultiTenant hmulti) h).1
  refine ⟨Tenant.made spec.started store operator.operatorNamespace, ?_, ?_⟩
  · rw [hspec, rerouted_of_isMultiTenant hmulti]
    simp [Tenant.fannedOut]
  · intro input hinput kind hkind
    constructor
    · rintro ⟨output, houtput, -⟩ hempty
      rw [Tenant.made_eq_nil hempty] at houtput
      exact List.not_mem_nil houtput
    · exact fun hname => Tenant.exists_mem_made operator.operatorNamespace hname hinput hkind

/-- With a multi tenant store, a specification that declares no outputs needs no look-ups, so that
its normalization succeeds. -/
theorem exists_normalize_of_isMultiTenant (hmulti : store.isMultiTenant) (h : spec.outputs = [])
    (lookup : SecretLookup) (operator : Operator) :
    ∃ normalized, (spec.normalize (some store) lookup operator).value = .ok normalized := by
  obtain ⟨owned, -, hmigrate⟩ :=
    migrate_of_isConfigured spec operator (Store.isConfigured_of_isMultiTenant hmulti)
  refine ⟨_, (normalize_eq_ok_iff_of_migrate hmigrate).2 ⟨?_, rfl⟩⟩
  rw [Migrated.failure?_outputReviews_eq_none_iff, rerouted_of_isMultiTenant hmulti]
  intro output houtput
  have hmade : output ∈ Tenant.made spec.started store operator.operatorNamespace := by
    simpa [Tenant.fannedOut, h] using houtput
  exact Output.lookupFailure?_of_isSound (Tenant.isSound_of_mem_made hmade owned lookup)

variable {files : Files} {settings : Settings} {options : StoreOptions} {path : String}
  {normalized : Normalized}

/-- A file is normalized by a migration and a review for the store of the command. -/
theorem exists_migrate_of_normalizeFile
    (h : (normalizeFile files settings options path).value = .ok normalized) :
    ∃ spec store migrated, IsInput files settings options path spec store
      ∧ (spec.migrate store settings.operator).value = .ok migrated
      ∧ migrated.reviewed (commandLookup files settings options) = normalized := by
  by_cases hinput : ∃ spec store, IsInput files settings options path spec store
  · obtain ⟨spec, store, hinput⟩ := hinput
    rw [value_normalizeFile hinput] at h
    cases hchecked : settings.operator.checked with
    | error error => rw [hchecked] at h; exact absurd h nofun
    | ok operator =>
      rw [hchecked, mapError_eq_ok_iff, normalize_eq_ok_iff] at h
      obtain rfl := (Operator.checked_eq_ok_iff.1 hchecked).2
      obtain ⟨migrated, hmigrate, -, hreviewed⟩ := h
      exact ⟨spec, store, migrated, hinput, hmigrate, hreviewed⟩
  · obtain ⟨error, herror, -⟩ := normalizeFile_of_not_isInput hinput
    exact absurd (h.symm.trans herror) nofun

end Spec

/-- **The name of a multi tenant store**: with settings without fault, a command comes to a multi
tenant store without a name iff its command line takes the name away or asks for such a store
without one. A file that is normalized gets the outputs of all known tenants iff it does
not. -/
theorem isNameless_iff_unnames {settings : Settings} (h : settings.invalid? = none)
    (options : StoreOptions) :
    ((∃ store, options.resolve settings = .ok (some store) ∧ store.IsNameless) ↔
      options.Unnames settings)
    ∧ ∀ (files : Files) (path : String) (normalized : Normalized),
      (Spec.normalizeFile files settings options path).value = .ok normalized →
      ∃ spec store migrated, Spec.IsInput files settings options path spec store
        ∧ (spec.migrate store settings.operator).value = .ok migrated
        ∧ migrated.reviewed (Spec.commandLookup files settings options) = normalized
        ∧ (Store.kindOf store = .lokiStack →
            spec.FansOutInto migrated (¬ options.Unnames settings)) := by
  refine ⟨StoreOptions.exists_isNameless_iff h, fun files path normalized hnormalize => ?_⟩
  obtain ⟨spec, store, migrated, hinput, hmigrate, hreviewed⟩ :=
    Spec.exists_migrate_of_normalizeFile hnormalize
  refine ⟨spec, store, migrated, hinput, hmigrate, hreviewed, fun hkind => ?_⟩
  cases store with
  | none => cases hkind
  | some store =>
    have hmulti := Store.isMultiTenant_iff.2 hkind
    have hfanOut := Spec.fansOutInto_of_migrate hmulti hmigrate
    rwa [ne_eq, StoreOptions.name_eq_empty_iff h hinput.resolve hmulti] at hfanOut

/-- A command line that asks for a multi tenant store, with or without a name for it. -/
def multiTenantOptions (storeName : Option String) : StoreOptions :=
  { store := some "lokistack", storeName }

/-- A blank specification and nothing else. -/
def blankFiles : Files := .ofTexts [("spec.yaml", "")]

/-- The store that it asks for. -/
def multiTenantStore (storeName : Option String) : Store := .lokiStack (storeName.getD "")

theorem isInput_blankFiles (storeName : Option String) :
    Spec.IsInput blankFiles {} (multiTenantOptions storeName) "spec.yaml" {}
      (some (multiTenantStore storeName)) := by
  have htyped : StoreKind.ofTyped? "lokistack" = some .lokiStack := by decide +kernel
  refine ⟨Spec.load_ofTexts_of_blank rfl, StoreOptions.resolve_eq_ok_some_iff.2 ⟨?_, rfl, rfl⟩⟩
  exact StoreOptions.kind_eq_ok_iff.2 (.inr ⟨_, rfl, htyped⟩)

theorem exists_normalizeFile_blankFiles (storeName : Option String) : ∃ normalized,
    (({} : Spec).normalize (some (multiTenantStore storeName))
      (Spec.commandLookup blankFiles {} (multiTenantOptions storeName)) {}).value = .ok normalized
    ∧ (Spec.normalizeFile blankFiles {} (multiTenantOptions storeName) "spec.yaml").value =
      .ok normalized := by
  obtain ⟨normalized, hnormalized⟩ :=
    @Spec.exists_normalize_of_isMultiTenant {} (multiTenantStore storeName) rfl rfl
      (Spec.commandLookup blankFiles {} (multiTenantOptions storeName)) {}
  refine ⟨normalized, hnormalized, ?_⟩
  rw [Spec.value_normalizeFile (isInput_blankFiles storeName)]
  exact mapError_eq_ok_iff.2 hnormalized

theorem isNameless_iff_unnames_multiTenantOptions :
    ({} : Settings).invalid? = none
      ∧ (¬ ∃ store, (multiTenantOptions (some "dev")).resolve {} = .ok (some store)
          ∧ store.IsNameless)
      ∧ ∃ normalized, (Spec.normalizeFile blankFiles {} (multiTenantOptions (some "dev"))
          "spec.yaml").value = .ok normalized
        ∧ ∃ migrated, (({} : Spec).migrate (some (.lokiStack "dev")) {}).value = .ok migrated
          ∧ ({} : Spec).FansOutInto migrated (¬ (multiTenantOptions (some "dev")).Unnames {}) := by
  have hvalid : ({} : Settings).invalid? = none := by decide
  obtain ⟨hiff, hrun⟩ := isNameless_iff_unnames hvalid (multiTenantOptions (some "dev"))
  obtain ⟨normalized, -, hnormalize⟩ := exists_normalizeFile_blankFiles (some "dev")
  obtain ⟨spec, store, migrated, hinput, hmigrate, -, hfanOut⟩ := hrun _ _ _ hnormalize
  have hthere := isInput_blankFiles (some "dev")
  obtain rfl := Except.ok.inj (hinput.load.symm.trans hthere.load)
  obtain rfl := Except.ok.inj (hinput.resolve.symm.trans hthere.resolve)
  refine ⟨hvalid, ?_, normalized, hnormalize, migrated, hmigrate, hfanOut rfl⟩
  rw [hiff]
  rintro (⟨-, hname⟩ | ⟨-, -, hname, -⟩)
  · exact absurd hname (by decide)
  · exact absurd hname (by decide)

/-- **A store without a name**: settings without fault, a command line that asks for a multi
tenant store and has no name for it, and a blank specification. The standard pipelines are
split for tenants, none of which gets an output, and dropped. -/
theorem exists_isNameless_resolve : ∃ (settings : Settings) (options : StoreOptions)
    (store : Store) (files : Files) (path : String) (normalized : Normalized),
    settings.invalid? = none ∧ options.resolve settings = .ok (some store) ∧ store.IsNameless
      ∧ (Spec.normalizeFile files settings options path).value = .ok normalized
      ∧ normalized.spec = {}
      ∧ normalized.status.pipelines.map (·.state) = [.dropped, .dropped] := by
  obtain ⟨normalized, hnormalized, hnormalize⟩ := exists_normalizeFile_blankFiles none
  have hdropped : (({} : Spec).normalize (some (multiTenantStore none))
      (Spec.commandLookup blankFiles {} (multiTenantOptions none)) {}).value.toOption.map
        (fun normalized => (normalized.spec, normalized.status.pipelines.map (·.state))) =
      some ({}, [.dropped, .dropped]) := by decide +kernel
  rw [hnormalized] at hdropped
  obtain ⟨hspec, hstates⟩ := Prod.mk.inj (Option.some.inj hdropped)
  exact ⟨{}, multiTenantOptions none, multiTenantStore none, blankFiles, "spec.yaml", normalized,
    by decide, (isInput_blankFiles none).resolve, by decide, hnormalize, hspec, hstates⟩

end LogForwarding
