import AegisOt.Plant.Proofs.SamePlant
import AegisOt.Plant.Sample

/-!
# Restoring inverts checkpointing

A plant reaches its state by commands that each edit a copy of its network; `restore_state` rebuilds
the network in one step from the isolated lines and the battery injections of a snapshot. The two
networks are equal, because a command writes only bound rows and the snapshot shows every bound
row, also where several resources are bound to one row. `restore_state` however compares every
injection with the bounds of every resource on its row, while a command is compared with the bounds
of the resource it names; `restore_inverts_iff` says when the two agree.
-/

namespace AegisOt

/-! ## What the snapshot shows of the bound rows -/

namespace PlantConfiguration

variable {configuration : PlantConfiguration} {tables : Network}

theorem mem_sortedBindings {entry : String × ResourceBinding} :
    entry ∈ configuration.sortedBindings ↔ entry ∈ configuration.resourceBindings :=
  SortedMap.mem_entries_ofEntries configuration.distinct

theorem lineBindings_unique {entry other : String × ResourceBinding}
    (h : entry ∈ configuration.lineBindings) (hother : other ∈ configuration.lineBindings)
    (hname : entry.1 = other.1) : entry = other :=
  List.inj_on_of_nodup_map configuration.distinct (List.mem_filter.mp h).1
    (List.mem_filter.mp hother).1 hname

theorem batteryBindings_nodup : (configuration.batteryBindings.map Prod.fst).Nodup :=
  List.Nodup.sublist (List.Sublist.map _ List.filter_sublist) configuration.distinct

theorem mem_isolatedResources {resource : String} :
    resource ∈ isolatedResources configuration tables ↔
      ∃ entry ∈ configuration.lineBindings, entry.1 = resource ∧
        tables.lineInService entry.2.targetIndex = false := by
  unfold isolatedResources lineBindings
  simp only [List.mem_map, List.mem_filter, mem_sortedBindings, decide_eq_true_eq]
  constructor
  · rintro ⟨entry, ⟨hentry, htype, hout⟩, rfl⟩
    exact ⟨entry, ⟨hentry, htype⟩, rfl, hout⟩
  · rintro ⟨entry, ⟨hentry, htype⟩, rfl, hout⟩
    exact ⟨entry, ⟨hentry, htype, hout⟩, rfl⟩

theorem isolatedResources_pairwise :
    (isolatedResources configuration tables).Pairwise (· < ·) := by
  refine List.Pairwise.sublist (List.Sublist.map _ List.filter_sublist) ?_
  exact (SortedMap.ofEntries configuration.resourceBindings).keys_pairwise

theorem mem_batteryInjection {item : String × ℚ} :
    item ∈ batteryInjection configuration tables ↔
      ∃ entry ∈ configuration.batteryBindings,
        (entry.1, - tables.storagePMw entry.2.targetIndex) = item := by
  unfold batteryInjection batteryBindings
  simp only [List.mem_map, List.mem_filter, mem_sortedBindings, decide_eq_true_eq]

/-- The line flags that the snapshot shows are those of the network. -/
theorem notMem_isolatedResources {entry : String × ResourceBinding}
    (h : entry ∈ configuration.lineBindings) :
    decide (entry.1 ∉ isolatedResources configuration tables) =
      tables.lineInService entry.2.targetIndex := by
  cases hservice : tables.lineInService entry.2.targetIndex with
  | true =>
    refine decide_eq_true fun hmem => ?_
    obtain ⟨other, hother, hname, hout⟩ := mem_isolatedResources.mp hmem
    rw [lineBindings_unique hother h hname, hservice] at hout
    cases hout
  | false =>
    refine decide_eq_false fun hnot => hnot ?_
    exact mem_isolatedResources.mpr ⟨entry, h, rfl, hservice⟩

/-- The injections that the snapshot shows are the negated powers of the network. -/
theorem lookup_batteryInjection {entry : String × ResourceBinding}
    (h : entry ∈ configuration.batteryBindings) :
    lookupEntry entry.1 (batteryInjection configuration tables) =
      some (- tables.storagePMw entry.2.targetIndex) := by
  refine lookupEntry_of_unique (mem_batteryInjection.mpr ⟨entry, h, rfl⟩) ?_
  intro power hpower
  obtain ⟨other, hother, hitem⟩ := mem_batteryInjection.mp hpower
  obtain ⟨hname, rfl⟩ := Prod.mk.inj hitem
  rw [List.inj_on_of_nodup_map batteryBindings_nodup hother h hname]

end PlantConfiguration

open PlantConfiguration

/-! ## The restored network -/

namespace Network

/-- Writing their own flags to rows, from a network that has the other flags already. -/
theorem foldl_setLineInService (net : Network) (value : String × ResourceBinding → Bool)
    {target : Nat → Bool} {entries : List (String × ResourceBinding)}
    (hvalue : ∀ entry ∈ entries, value entry = target entry.2.targetIndex)
    (hrest : ∀ row, (∀ entry ∈ entries, entry.2.targetIndex ≠ row) →
      net.lineInService row = target row) :
    entries.foldl (fun net entry => net.setLineInService entry.2.targetIndex (value entry)) net =
      { net with lineInService := target } := by
  induction entries generalizing net with
  | nil =>
    have hlines : net.lineInService = target := by
      funext row
      exact hrest row (by simp)
    rw [List.foldl_nil, ← hlines]
  | cons entry rest ih =>
    rw [List.foldl_cons]
    refine ih _ (fun other hother => hvalue other (List.mem_cons_of_mem _ hother)) ?_
    intro row hrow
    unfold setLineInService
    by_cases hsame : row = entry.2.targetIndex
    · subst hsame
      rw [hvalue entry List.mem_cons_self]
      exact Function.update_self _ _ _
    · refine (Function.update_of_ne hsame _ _).trans (hrest row ?_)
      intro other hother
      rcases List.mem_cons.mp hother with rfl | hother
      · exact Ne.symm hsame
      · exact hrow other hother

theorem foldl_setStoragePMw (net : Network) (value : String × ResourceBinding → ℚ)
    {target : Nat → ℚ} {entries : List (String × ResourceBinding)}
    (hvalue : ∀ entry ∈ entries, value entry = target entry.2.targetIndex)
    (hrest : ∀ row, (∀ entry ∈ entries, entry.2.targetIndex ≠ row) →
      net.storagePMw row = target row) :
    entries.foldl (fun net entry => net.setStoragePMw entry.2.targetIndex (value entry)) net =
      { net with storagePMw := target } := by
  induction entries generalizing net with
  | nil =>
    have hpowers : net.storagePMw = target := by
      funext row
      exact hrest row (by simp)
    rw [List.foldl_nil, ← hpowers]
  | cons entry rest ih =>
    rw [List.foldl_cons]
    refine ih _ (fun other hother => hvalue other (List.mem_cons_of_mem _ hother)) ?_
    intro row hrow
    unfold setStoragePMw
    by_cases hsame : row = entry.2.targetIndex
    · subst hsame
      rw [hvalue entry List.mem_cons_self]
      exact Function.update_self _ _ _
    · refine (Function.update_of_ne hsame _ _).trans (hrest row ?_)
      intro other hother
      rcases List.mem_cons.mp hother with rfl | hother
      · exact Ne.symm hsame
      · exact hrow other hother

end Network

/-- A network made from another one by writes to the bound rows. -/
structure EditsBound (configuration : PlantConfiguration) (base tables : Network) : Prop where
  others : tables = { base with
    lineInService := tables.lineInService
    storagePMw := tables.storagePMw }
  lines : ∀ row, (∀ entry ∈ configuration.lineBindings, entry.2.targetIndex ≠ row) →
    base.lineInService row = tables.lineInService row
  storage : ∀ row, (∀ entry ∈ configuration.batteryBindings, entry.2.targetIndex ≠ row) →
    base.storagePMw row = tables.storagePMw row

/-- The snapshot of a network determines it among the networks made by writes to bound rows. -/
theorem restoreTables_eq {configuration : PlantConfiguration} {base tables : Network}
    (h : EditsBound configuration base tables) {snapshot : PhysicalStateSnapshot}
    (hisolated : snapshot.isolatedResources = isolatedResources configuration tables)
    (hinjection : snapshot.batteryInjectionMw = batteryInjection configuration tables) :
    PandapowerCigreMvPlant.restoreTables configuration snapshot base = tables := by
  unfold PandapowerCigreMvPlant.restoreTables
  rw [hisolated, hinjection]
  have hlines := base.foldl_setLineInService
    (fun entry => decide (entry.1 ∉ isolatedResources configuration tables))
    (fun entry hentry => notMem_isolatedResources hentry) h.lines
  have hpower := Network.foldl_setStoragePMw { base with lineInService := tables.lineInService }
    (fun entry => - (lookupEntry entry.1 (batteryInjection configuration tables)).getD 0)
    (fun entry hentry => by
      rw [lookup_batteryInjection hentry, Option.getD_some, neg_neg]) h.storage
  simp only [hlines]
  rw [hpower]
  exact h.others.symm

/-! ## Runs of commands -/

/-- The setpoint of the newest battery command to a storage row; the newest command comes first. -/
def commandedInjection : List PhysicalControlCommand → Nat → Option ℚ
  | [], _ => none
  | command :: earlier, row =>
      if command.commandType = .setBatteryInjection ∧ command.targetIndex = row then
        some command.setpoint
      else commandedInjection earlier row

/-- Every battery resource admits the setpoint last commanded to its storage row, whichever
    resource the command named. -/
def PlantConfiguration.Restorable (configuration : PlantConfiguration)
    (commands : List PhysicalControlCommand) : Prop :=
  ∀ entry ∈ configuration.batteryBindings, ∀ setpoint,
    commandedInjection commands entry.2.targetIndex = some setpoint → entry.2.admits setpoint

section

variable [Primitives] [PlantPrimitives] [Pandapower] [Binary64]

namespace PandapowerCigreMvPlant

/-- `apply_authorized_command` applied these commands one after the other, the newest first. -/
inductive Applies (fresh : PandapowerCigreMvPlant) :
    List PhysicalControlCommand → PandapowerCigreMvPlant → Prop where
  | nil : Applies fresh [] fresh
  | cons {commands : List PhysicalControlCommand} {plant after : PandapowerCigreMvPlant}
      {request : ApplyRequest} {observed effectClock : ClockReading}
      {durableCommit : Option (Except PlantError Unit)} {snapshot : PhysicalStateSnapshot}
      (hrun : Applies fresh commands plant)
      (happly : Method.call (applyAuthorizedCommand request observed effectClock durableCommit)
        plant = (.ok snapshot, after)) :
      Applies fresh (request.command :: commands) after

/-- The plant can be read, and its state is safe. -/
def Safe (plant : PandapowerCigreMvPlant) : Prop :=
  ∃ snapshot, plant.readState = .ok snapshot ∧ snapshot.unsafeState = false

/-- The battery injections of the network are within the bounds of their resources. -/
def InjectionsBounded (plant : PandapowerCigreMvPlant) : Prop :=
  ∀ entry ∈ plant.configuration.batteryBindings,
    entry.2.admits (- plant.net.tables.storagePMw entry.2.targetIndex)

/-- What the commands since the start leave of a plant. -/
structure Settled (configuration : PlantConfiguration) (commands : List PhysicalControlCommand)
    (plant : PandapowerCigreMvPlant) : Prop where
  configured : plant.configuration = configuration
  modelDigest : plant.modelDigest =
    modelMaterialDigest configuration Pandapower.createCigreNetworkMv
  solved : plant.net = solve plant.net.tables
  converged : plant.net.solution ≠ none
  safe : plant.Safe
  edits : EditsBound configuration Pandapower.createCigreNetworkMv plant.net.tables
  injections : ∀ row, plant.net.tables.storagePMw row =
    match commandedInjection commands row with
    | some setpoint => - setpoint
    | none => Pandapower.createCigreNetworkMv.storagePMw row

variable {configuration : PlantConfiguration} {commands : List PhysicalControlCommand}
  {plant after : PandapowerCigreMvPlant}

omit [Primitives] [Binary64] in
/-- What `__init__` builds. -/
theorem create_eq_ok {observedAt : Time} (h : create configuration observedAt = .ok plant) :
    (solve Pandapower.createCigreNetworkMv).solution ≠ none ∧
      plant =
        { configuration := configuration
          modelDigest := modelMaterialDigest configuration Pandapower.createCigreNetworkMv
          net := solve Pandapower.createCigreNetworkMv
          stateVersion := 0
          simulationTimeS := 0
          observedAt := observedAt
          observationSequence := 0 } := by
  unfold create at h
  obtain ⟨-, h⟩ := bind_unit_eq_ok.mp h
  obtain ⟨-, h⟩ := bind_unit_eq_ok.mp h
  obtain ⟨hconverged, h⟩ := bind_unit_eq_ok.mp h
  exact ⟨refuseIf_eq_ok.mp hconverged, (Except.ok.inj h).symm⟩

theorem settled_create {observedAt : Time} (h : create configuration observedAt = .ok plant)
    (hsafe : plant.Safe) : Settled configuration [] plant := by
  obtain ⟨hconverged, rfl⟩ := create_eq_ok h
  exact ⟨rfl, rfl, rfl, hconverged, hsafe, ⟨rfl, fun _ _ => rfl, fun _ _ => rfl⟩, fun _ => rfl⟩

omit [Primitives] [Binary64] in
/-- The digest of the model does not depend on the bound rows. -/
theorem modelMaterialDigest_edits {base tables : Network}
    (h : EditsBound configuration base tables) :
    modelMaterialDigest configuration tables = modelMaterialDigest configuration base := by
  have hstatic : tables.staticMaterial = base.staticMaterial := by
    rw [h.others]
    refine Network.staticMaterial_congr rfl rfl rfl rfl rfl ?_
    intro table index column hline hstorage
    unfold Network.read
    rw [if_neg hline, if_neg hstorage, if_neg hline, if_neg hstorage]
  unfold modelMaterialDigest modelMaterial
  rw [hstatic]

theorem Settled.integrity (h : Settled configuration commands plant) :
    plant.assertModelIntegrity = .ok () := by
  unfold assertModelIntegrity
  rw [h.configured, h.modelDigest, modelMaterialDigest_edits h.edits]
  exact refuseIf_neg (by simp)

omit [Primitives] [PlantPrimitives] [Pandapower] [Binary64] in
/-- A command that passes its validation names a bound row of its own table. -/
theorem of_validateCommand {command : PhysicalControlCommand} {binding : ResourceBinding}
    (h : validateCommand configuration command = .ok binding) :
    (command.resource, binding) ∈ configuration.resourceBindings ∧
      command.commandType = binding.commandType ∧ command.targetIndex = binding.targetIndex ∧
      binding.admits command.setpoint := by
  unfold validateCommand at h
  obtain ⟨found, hfound, h⟩ := bind_eq_ok.mp h
  obtain ⟨hbinds, h⟩ := bind_unit_eq_ok.mp h
  obtain ⟨hadmits, h⟩ := bind_unit_eq_ok.mp h
  obtain rfl := Except.ok.inj h
  rw [refuseIf_eq_ok, not_or, not_or, not_not, not_not, not_not] at hbinds
  rw [refuseIf_eq_ok, not_not] at hadmits
  exact ⟨mem_of_lookupEntry (orRaise_eq_ok.mp hfound), hbinds.1, hbinds.2.2, hadmits⟩

omit [Primitives] [PlantPrimitives] [Pandapower] [Binary64] in
/-- One command writes a bound row, and its setpoint is the newest one of that row. -/
theorem edits_applyToNetwork (commands : List PhysicalControlCommand)
    {base tables after : Network} {command : PhysicalControlCommand}
    (h : applyToNetwork configuration tables command = .ok after)
    (hedits : EditsBound configuration base tables)
    (hinjections : ∀ row, tables.storagePMw row =
      match commandedInjection commands row with
      | some setpoint => - setpoint
      | none => base.storagePMw row) :
    EditsBound configuration base after ∧ ∀ row, after.storagePMw row =
      match commandedInjection (command :: commands) row with
      | some setpoint => - setpoint
      | none => base.storagePMw row := by
  unfold applyToNetwork at h
  obtain ⟨binding, hbinding, h⟩ := bind_eq_ok.mp h
  obtain ⟨hmem, htype, hindex, -⟩ := of_validateCommand hbinding
  cases hcommand : command.commandType with
  | setLineService =>
    rw [hcommand] at h htype
    obtain rfl := Except.ok.inj h
    have hline : (command.resource, binding) ∈ configuration.lineBindings :=
      List.mem_filter.mpr ⟨hmem, decide_eq_true htype.symm⟩
    refine ⟨⟨?_, ?_, hedits.storage⟩, ?_⟩
    · rw [hedits.others]
      rfl
    · intro row hrow
      rw [hedits.lines row hrow]
      exact (Function.update_of_ne (Ne.symm (hrow _ hline)) _ _).symm
    · intro row
      rw [commandedInjection, if_neg (by rw [hcommand]; rintro ⟨hother, -⟩; cases hother)]
      exact hinjections row
  | setBatteryInjection =>
    rw [hcommand] at h htype
    obtain rfl := Except.ok.inj h
    have hbattery : (command.resource, binding) ∈ configuration.batteryBindings :=
      List.mem_filter.mpr ⟨hmem, decide_eq_true htype.symm⟩
    refine ⟨⟨?_, hedits.lines, ?_⟩, ?_⟩
    · rw [hedits.others]
      rfl
    · intro row hrow
      rw [hedits.storage row hrow]
      exact (Function.update_of_ne (Ne.symm (hrow _ hbattery)) _ _).symm
    · intro row
      by_cases hrow : command.targetIndex = row
      · rw [commandedInjection, if_pos ⟨hcommand, hrow⟩]
        subst hrow
        rw [hindex]
        exact Function.update_self _ _ _
      · rw [commandedInjection, if_neg (fun hsame => hrow hsame.2)]
        rw [hindex] at hrow
        exact (Function.update_of_ne (Ne.symm hrow) _ _).trans (hinjections row)

/-- A successful command is a prepared effect that was swapped in. -/
theorem apply_eq_ok {request : ApplyRequest} {observed effectClock : ClockReading}
    {durableCommit : Option (Except PlantError Unit)} {snapshot : PhysicalStateSnapshot}
    (h : Method.call (applyAuthorizedCommand request observed effectClock durableCommit) plant =
      (.ok snapshot, after)) :
    ∃ effect, plant.prepareEffect request observed effectClock = .ok effect ∧
      snapshot = effect.snapshot ∧ after = plant.swap effect := by
  rw [call_applyAuthorizedCommand] at h
  cases hprepare : plant.prepareEffect request observed effectClock with
  | error e =>
    rw [hprepare] at h
    cases h
  | ok effect =>
    rw [hprepare] at h
    cases hcommit : (durableCommit.getD (.ok ())).mapError relabelCommit with
    | error e =>
      rw [hcommit] at h
      cases h
    | ok _ =>
      rw [hcommit] at h
      obtain ⟨hsnapshot, hafter⟩ := Prod.mk.inj h
      exact ⟨effect, rfl, (Except.ok.inj hsnapshot).symm, hafter.symm⟩

theorem readState_swap {effect : PendingEffect} {tables : Network}
    (hintegrity : (plant.swap effect).assertModelIntegrity = .ok ())
    (hnet : effect.net = solve tables) (hconverged : (solve tables).solution ≠ none)
    (hsnapshot : plant.snapshot (solve tables) effect.labels true = .ok effect.snapshot) :
    (plant.swap effect).readState = .ok effect.snapshot := by
  unfold readState
  rw [hintegrity]
  change plant.snapshot effect.net effect.labels effect.net.solution.isSome = _
  rw [hnet, Option.isSome_iff_ne_none.mpr hconverged]
  exact hsnapshot

theorem Settled.apply (h : Settled configuration commands plant) {request : ApplyRequest}
    {observed effectClock : ClockReading} {durableCommit : Option (Except PlantError Unit)}
    {snapshot : PhysicalStateSnapshot}
    (happly : Method.call (applyAuthorizedCommand request observed effectClock durableCommit)
      plant = (.ok snapshot, after)) :
    Settled configuration (request.command :: commands) after := by
  obtain ⟨effect, hprepare, -, rfl⟩ := apply_eq_ok happly
  obtain ⟨tables, hprepared⟩ := prepared_of_prepareEffect hprepare
  have happlied := hprepared.applied
  rw [h.configured] at happlied
  obtain ⟨hedits, hinjections⟩ := edits_applyToNetwork _ happlied h.edits h.injections
  have htables : (plant.swap effect).net.tables = tables := by
    change effect.net.tables = tables
    rw [hprepared.net]
    rfl
  have hintegrity : (plant.swap effect).assertModelIntegrity = .ok () := by
    unfold assertModelIntegrity
    rw [htables]
    change refuseIf (modelMaterialDigest plant.configuration tables ≠ plant.modelDigest) _ = _
    rw [h.configured, h.modelDigest, modelMaterialDigest_edits hedits]
    exact refuseIf_neg (by simp)
  refine ⟨h.configured, h.modelDigest, ?_, ?_, ?_, ?_, ?_⟩
  · rw [htables]
    exact hprepared.net
  · change effect.net.solution ≠ none
    rw [hprepared.net]
    exact hprepared.converged
  · exact ⟨effect.snapshot, readState_swap hintegrity hprepared.net hprepared.converged
      hprepared.snapshot, hprepared.safe⟩
  · rw [htables]
    exact hedits
  · rw [htables]
    exact hinjections

/-- The invariant holds after every run of commands. -/
theorem Applies.settled {observedAt : Time} {fresh : PandapowerCigreMvPlant}
    (hfresh : create configuration observedAt = .ok fresh) (hsafe : fresh.Safe)
    (h : Applies fresh commands plant) : Settled configuration commands plant := by
  induction h with
  | nil => exact settled_create hfresh hsafe
  | cons _ happly ih => exact ih.apply happly

/-! ## Restoring -/

/-- The snapshot of the plant, restored on a fresh one at `restoredAt`: it is accepted, it brings
    back the state, and whatever is asked next is answered alike. A refused restore leaves the
    fresh plant alone. -/
def RestoreInverts (live target : PandapowerCigreMvPlant) (restoredAt : Time) : Prop :=
  (∃ snapshot restored after, live.readState = .ok snapshot ∧
    Method.call (restoreState snapshot (.ok restoredAt)) target = (.ok restored, after) ∧
    after.readState = .ok restored ∧
    restored.stateVersion = snapshot.stateVersion ∧
    restored.simulationTimeS = snapshot.simulationTimeS ∧
    restored.stateDigest = snapshot.stateDigest ∧
    restored.inputDigest = snapshot.inputDigest ∧
    restored.topologyDigest = snapshot.topologyDigest ∧
    ∀ calls, AgreesFor calls live after) ∧
  ∀ snapshot clock error after,
    Method.call (restoreState snapshot clock) target = (.error error, after) → after = target

/-- `restore_state` assigns only when everything has passed. -/
theorem restoreState_atomic (snapshot : PhysicalStateSnapshot) (clock : ClockReading) :
    Method.Atomic (restoreState snapshot clock) := by
  refine Method.Reads.atomic_bind Method.reads_self fun plant => ?_
  refine Method.Reads.atomic_bind (Method.reads_check _) fun effect => ?_
  exact (Method.total_assign_pure _ _).atomic

theorem call_restoreState {snapshot : PhysicalStateSnapshot} {clock : ClockReading}
    {effect : PendingEffect} (h : plant.prepareRestore snapshot clock = .ok effect) :
    Method.call (restoreState snapshot clock) plant = (.ok effect.snapshot, plant.swap effect) := by
  unfold restoreState
  rw [Method.call_self_bind, Method.call_bind, Method.call_check, h]
  rfl

/-- A restore that was accepted had prepared its effect. -/
theorem restoreState_eq_ok {snapshot restored : PhysicalStateSnapshot} {clock : ClockReading}
    (h : Method.call (restoreState snapshot clock) plant = (.ok restored, after)) :
    ∃ effect, plant.prepareRestore snapshot clock = .ok effect := by
  unfold restoreState at h
  rw [Method.call_self_bind] at h
  obtain ⟨effect, heffect, -⟩ := Method.call_check_bind_eq_ok.mp h
  exact ⟨effect, heffect⟩

/-- What a settled plant shows. -/
theorem Settled.snapshot (h : Settled configuration commands plant)
    {snapshot : PhysicalStateSnapshot} (hread : plant.readState = .ok snapshot) :
    plant.snapshot plant.net plant.labels true = .ok snapshot ∧ snapshot.verifyDigest = true ∧
      snapshot.modelId = cigreMvModelId ∧ snapshot.simulatorVersion = simulatorVersion ∧
      snapshot.modelDigest = plant.modelDigest ∧ snapshot.converged = true ∧
      snapshot.isolatedResources = isolatedResources configuration plant.net.tables ∧
      snapshot.batteryInjectionMw = batteryInjection configuration plant.net.tables ∧
      snapshot.stateVersion = plant.stateVersion ∧
      snapshot.simulationTimeS = plant.simulationTimeS := by
  unfold readState at hread
  obtain ⟨-, hsnapshot⟩ := bind_unit_eq_ok.mp hread
  rw [Option.isSome_iff_ne_none.mpr h.converged] at hsnapshot
  refine ⟨hsnapshot, ?_⟩
  obtain ⟨m, hm, -, rfl⟩ := snapshotOf_eq_ok hsnapshot
  unfold measure at hm
  obtain ⟨loads, -, hm⟩ := bind_eq_ok.mp hm
  obtain rfl := Except.ok.inj hm
  refine ⟨PhysicalStateSnapshot.verifyDigest_withDigests _, rfl, rfl, rfl, rfl, ?_, ?_, rfl, rfl⟩
  · exact congrArg (isolatedResources · plant.net.tables) h.configured
  · exact congrArg (batteryInjection · plant.net.tables) h.configured

/-- The bounds that `restore_state` checks are those of every resource on a row. -/
theorem Settled.injections_admitted_iff (h : Settled configuration commands plant)
    (hbaseline : ∀ entry ∈ configuration.batteryBindings,
      entry.2.admits (- Pandapower.createCigreNetworkMv.storagePMw entry.2.targetIndex)) :
    (batteryInjection configuration plant.net.tables).any (injectionRefused configuration) =
        false ↔ configuration.Restorable commands := by
  have hlookup {entry : String × ResourceBinding} (hentry : entry ∈ configuration.batteryBindings)
      (x : ℚ) : injectionRefused configuration (entry.1, x) = decide (¬ entry.2.admits x) := by
    unfold injectionRefused
    rw [(lookupEntry_eq_some_of_nodup batteryBindings_nodup).mpr hentry]
  rw [List.any_eq_false]
  constructor
  · intro hadmitted entry hentry setpoint hsetpoint
    have hpower := h.injections entry.2.targetIndex
    rw [hsetpoint] at hpower
    have hitem := hadmitted _ (mem_batteryInjection.mpr ⟨entry, hentry, rfl⟩)
    rw [hlookup hentry, hpower, neg_neg] at hitem
    simpa using hitem
  · intro hrestorable item hitem
    obtain ⟨entry, hentry, rfl⟩ := mem_batteryInjection.mp hitem
    rw [hlookup hentry, h.injections entry.2.targetIndex]
    cases hcommanded : commandedInjection commands entry.2.targetIndex with
    | none => simpa using hbaseline entry hentry
    | some setpoint =>
      rw [neg_neg]
      simpa using hrestorable entry hentry setpoint hcommanded

omit [Primitives] [PlantPrimitives] [Pandapower] [Binary64] in
/-- The snapshot of a settled plant names the bound battery resources. -/
theorem batteryResourcesMatch_of_settled {snapshot : PhysicalStateSnapshot}
    (h : snapshot.batteryInjectionMw = batteryInjection configuration plant.net.tables) :
    batteryResourcesMatch configuration snapshot := by
  unfold batteryResourcesMatch
  rw [h]
  constructor
  · intro resource hresource
    obtain ⟨item, hitem, rfl⟩ := List.mem_map.mp hresource
    obtain ⟨entry, hentry, rfl⟩ := mem_batteryInjection.mp hitem
    exact List.mem_map.mpr ⟨entry, hentry, rfl⟩
  · intro resource hresource
    obtain ⟨entry, hentry, rfl⟩ := List.mem_map.mp hresource
    exact List.mem_map.mpr ⟨_, mem_batteryInjection.mpr ⟨entry, hentry, rfl⟩, rfl⟩

variable {live target : PandapowerCigreMvPlant} {startedAt : Time}
  {snapshot : PhysicalStateSnapshot}

/-- A fresh plant refuses the snapshot of a settled one for nothing but its bounds. -/
theorem Settled.checkRestore_eq_ok_iff (h : Settled configuration commands live)
    (htarget : create configuration startedAt = .ok target)
    (hbaseline : ∀ entry ∈ configuration.batteryBindings,
      entry.2.admits (- Pandapower.createCigreNetworkMv.storagePMw entry.2.targetIndex))
    (hread : live.readState = .ok snapshot) (hsafe : snapshot.unsafeState = false) :
    target.checkRestore snapshot = .ok () ↔ configuration.Restorable commands := by
  obtain ⟨-, rfl⟩ := create_eq_ok htarget
  obtain ⟨-, hdigest, hmodel, hsimulator, hmodelDigest, hconverged, hisolated, hinjection, -, -⟩ :=
    h.snapshot hread
  rw [← h.injections_admitted_iff hbaseline, ← hinjection]
  unfold checkRestore assertModelIntegrity
  simp only [bind_unit_eq_ok, refuseIf_eq_ok]
  constructor
  · rintro ⟨-, -, -, -, -, -, -, hadmitted, -⟩
    simpa using hadmitted
  · intro hadmitted
    refine ⟨?_, ?_, ?_, ?_, ?_, ?_, ?_, ?_, ?_⟩
    · exact fun hchanged => hchanged rfl
    · simp
    · simp [hdigest]
    · simp [hmodel, hsimulator, hmodelDigest, h.modelDigest]
    · simp [hconverged, hsafe]
    · rw [hisolated, SortedMap.keys_ofKeys isolatedResources_pairwise]
      rintro (hunsorted | hunbound)
      · exact hunsorted rfl
      · refine hunbound fun resource hresource => ?_
        obtain ⟨entry, hentry, rfl, -⟩ := mem_isolatedResources.mp hresource
        exact List.mem_map.mpr ⟨entry, hentry, rfl⟩
    · exact fun hdiffers => hdiffers (batteryResourcesMatch_of_settled hinjection)
    · simp [hadmitted]
    · exact fun hchanged => hchanged rfl

/-- The rest of `restore_state` succeeds: the network it builds is the one it was given the
    snapshot of. -/
theorem Settled.prepareRestore_eq_ok (h : Settled configuration commands live)
    (htarget : create configuration startedAt = .ok target)
    (hread : live.readState = .ok snapshot) (hcheck : target.checkRestore snapshot = .ok ())
    (restoredAt : Time) :
    ∃ restored, snapshot.SamePhysical restored ∧
      target.snapshot live.net ⟨snapshot.stateVersion, snapshot.simulationTimeS, restoredAt, 0⟩
        true = .ok restored ∧
      target.prepareRestore snapshot (.ok restoredAt) = .ok ⟨snapshot, restored, live.net,
        ⟨snapshot.stateVersion, snapshot.simulationTimeS, restoredAt, 0⟩⟩ := by
  obtain ⟨hsnapshot, -, -, -, -, -, hisolated, hinjection, hversion, htime⟩ := h.snapshot hread
  obtain ⟨-, rfl⟩ := create_eq_ok htarget
  have hagree : Agree PhysicalStateSnapshot.SamePhysical
      (live.snapshot live.net live.labels true)
      (snapshotOf configuration (modelMaterialDigest configuration Pandapower.createCigreNetworkMv)
        live.net ⟨snapshot.stateVersion, snapshot.simulationTimeS, restoredAt, 0⟩ true) := by
    unfold PandapowerCigreMvPlant.snapshot
    rw [h.configured, h.modelDigest]
    exact agree_snapshotOf hversion.symm htime.symm
  obtain ⟨restored, hrestored, hsame⟩ := hagree.exists_ok hsnapshot
  refine ⟨restored, hsame, hrestored, ?_⟩
  have htables := restoreTables_eq h.edits hisolated hinjection
  unfold prepareRestore
  rw [hcheck, ok_bind]
  simp only [htables, ← h.solved]
  rw [refuseIf_neg h.converged, ok_bind]
  change (snapshotOf configuration _ live.net _ true >>= _) = _
  rw [hrestored, ok_bind, refuseIf_neg (not_not.mpr hsame.inputDigest.symm), ok_bind,
    refuseIf_neg (not_not.mpr hsame.topologyDigest.symm), ok_bind,
    refuseIf_neg (not_not.mpr hsame.stateDigest.symm)]
  rfl

/-- Restoring inverts checkpointing exactly where every battery resource admits what was last
    commanded to its row. -/
theorem restore_inverts_iff {fresh : PandapowerCigreMvPlant} {observedAt : Time}
    (hfresh : create configuration observedAt = .ok fresh) (hsafe : fresh.Safe)
    (hbounded : fresh.InjectionsBounded) (hrun : Applies fresh commands live)
    (htarget : create configuration startedAt = .ok target) (restoredAt : Time) :
    RestoreInverts live target restoredAt ↔ configuration.Restorable commands := by
  have hbaseline : ∀ entry ∈ configuration.batteryBindings,
      entry.2.admits (- Pandapower.createCigreNetworkMv.storagePMw entry.2.targetIndex) := by
    obtain ⟨-, rfl⟩ := create_eq_ok hfresh
    exact hbounded
  have hsettled := hrun.settled hfresh hsafe
  constructor
  · rintro ⟨⟨snapshot, restored, after, hread, hrestore, -⟩, -⟩
    obtain ⟨effect, hprepare⟩ := restoreState_eq_ok hrestore
    obtain ⟨snapshot', hread', hsafe'⟩ := hsettled.safe
    obtain rfl : snapshot = snapshot' := Except.ok.inj (hread.symm.trans hread')
    exact (hsettled.checkRestore_eq_ok_iff htarget hbaseline hread hsafe').mp
      (bind_unit_eq_ok.mp hprepare).1
  · intro hrestorable
    obtain ⟨snapshot, hread, hsnapshotSafe⟩ := hsettled.safe
    have hcheck :=
      (hsettled.checkRestore_eq_ok_iff htarget hbaseline hread hsnapshotSafe).mpr hrestorable
    obtain ⟨restored, hsame, hrestored, hprepare⟩ :=
      hsettled.prepareRestore_eq_ok htarget hread hcheck restoredAt
    obtain ⟨-, -, -, -, -, -, -, -, hversion, htime⟩ := hsettled.snapshot hread
    have hcreated := (create_eq_ok htarget).2
    refine ⟨⟨snapshot, restored, _, hread, call_restoreState hprepare, ?_,
      hsame.stateVersion.symm, hsame.simulationTimeS.symm, hsame.stateDigest.symm,
      hsame.inputDigest.symm, hsame.topologyDigest.symm, fun calls => Same.agreesFor ?_ calls⟩,
      fun snapshot clock => restoreState_atomic snapshot clock target⟩
    · refine readState_swap ?_ hsettled.solved ?_ ?_
      · unfold assertModelIntegrity
        rw [hcreated]
        exact refuseIf_neg (not_not.mpr (modelMaterialDigest_edits hsettled.edits))
      · rw [← hsettled.solved]
        exact hsettled.converged
      · rw [← hsettled.solved]
        exact hrestored
    · rw [hcreated]
      exact ⟨hsettled.configured, hsettled.modelDigest, rfl, hversion.symm, htime.symm⟩

end PandapowerCigreMvPlant

end

/-! ## A storage unit with two resources -/

/-- `battery-1` of the sample plant is set. -/
def Sample.dispatchBattery (setpoint : ℚ) :
    Except PlantError PhysicalStateSnapshot × PandapowerCigreMvPlant :=
  Method.call (PandapowerCigreMvPlant.applyAuthorizedCommand
    (plainRequest (batteryCommand "battery-1" setpoint)) (.ok 5) (.ok 5) none) (freshPlant 0)

namespace PandapowerCigreMvPlant

open Sample

theorem applies_dispatchBattery {setpoint : ℚ}
    (h : (dispatchBattery setpoint).1.toOption.isSome = true) :
    Applies (freshPlant 0) [batteryCommand "battery-1" setpoint] (dispatchBattery setpoint).2 := by
  obtain ⟨snapshot, hsnapshot⟩ := Option.isSome_iff_exists.mp h
  exact .cons .nil (Prod.ext (toOption_eq_some.mp hsnapshot) rfl)

theorem safe_freshPlant : (freshPlant 0).Safe := by
  have hsafe : (freshPlant 0).readState.toOption.map PhysicalStateSnapshot.unsafeState =
      some false := by decide +kernel
  obtain ⟨snapshot, hread, hsnapshot⟩ := Option.map_eq_some_iff.mp hsafe
  exact ⟨snapshot, toOption_eq_some.mp hread, hsnapshot⟩

theorem injectionsBounded_freshPlant : (freshPlant 0).InjectionsBounded := by
  unfold InjectionsBounded
  decide +kernel

/-- A setpoint within the bounds of both resources is restored. -/
theorem restore_inverts_iff_within :
    plantConfiguration.Restorable [batteryCommand "battery-1" (1 / 4)] ∧
      RestoreInverts (dispatchBattery (1 / 4)).2 (freshPlant 7) 9 := by
  have hrestorable : plantConfiguration.Restorable [batteryCommand "battery-1" (1 / 4)] := by
    have hadmits : ∀ entry ∈ plantConfiguration.batteryBindings, ∀ setpoint ∈
        commandedInjection [batteryCommand "battery-1" (1 / 4)] entry.2.targetIndex,
          entry.2.admits setpoint := by decide +kernel
    exact hadmits
  exact ⟨hrestorable, (restore_inverts_iff (create_freshPlant 0) safe_freshPlant
    injectionsBounded_freshPlant (applies_dispatchBattery (by decide +kernel))
    (create_freshPlant 7) 9).mpr hrestorable⟩

/-- A setpoint of `battery-1` that `battery-2` does not admit cannot be restored. -/
theorem restore_refused_for_alias :
    (freshPlant 0).Safe ∧ (freshPlant 0).InjectionsBounded ∧
      Applies (freshPlant 0) [batteryCommand "battery-1" 1] (dispatchBattery 1).2 ∧
      ¬ RestoreInverts (dispatchBattery 1).2 (freshPlant 7) 9 := by
  refine ⟨safe_freshPlant, injectionsBounded_freshPlant,
    applies_dispatchBattery (by decide +kernel), ?_⟩
  rintro ⟨⟨snapshot, restored, after, hread, hrestore, -⟩, -⟩
  have hrefused : ((dispatchBattery 1).2.readState.toOption.map fun snapshot =>
      (Method.call (restoreState snapshot (.ok 9)) (freshPlant 7)).1) =
        some (.error (.simulation "restore_storage_state_invalid")) := by decide +kernel
  rw [hread] at hrefused
  have hraised : (Method.call (restoreState snapshot (.ok 9)) (freshPlant 7)).1 = _ :=
    Option.some.inj hrefused
  rw [hrestore] at hraised
  cases hraised

end PandapowerCigreMvPlant

end AegisOt
