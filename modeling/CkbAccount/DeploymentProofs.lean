import CkbAccount.SchemasProofs

/-! # Publishing code cells

    `tools/deploy/src/deployment.ts`: the deployment manifest, the records in it, and
    `publishDeployment`, which publishes cell after cell and builds the manifest at the end.
    A cell that is published stays on chain whatever happens next, so its record should too.

    * `publishDeployment_eq_ok`: what is returned, in terms of the records of the cells;
    * `recorded_iff_noneLost`: exactly when no record is lost. -/

namespace CkbDeployment

open RustOutcome Outcome CkbBrowserCodec CkbSchemas

/-! ## Records and manifests -/

/-- `DeployedRecord`, without the literal of its hash type.  An index that is not whole is
    `none`. -/
structure DeployedRecord where
  name : String
  dataHash : String
  txHash : String
  index : Option Int
  capacityShannons : String
  deriving DecidableEq, Repr

/-- The record as an object. -/
def DeployedRecord.value (record : DeployedRecord) : Json :=
  .object [("name", .string record.name), ("dataHash", .string record.dataHash),
    ("hashType", .string "data2"), ("txHash", .string record.txHash),
    ("index", (record.index.map Json.number).getD .fraction),
    ("capacityShannons", .string record.capacityShannons)]

/-- The members of an object: `isObject` and `Object.entries`. -/
def entries : Json → Option (List (String × Json))
  | .object members => some members
  | _ => none

/-- `/^[1-9][0-9]*$/`. -/
def isCapacity (text : String) : Bool :=
  text.toList.all (fun c => '0' ≤ c && c ≤ '9') && text.toList.head?.any (fun c => c != '0')

/-- The checks of `deployedRecord`. -/
def isDeployedRecord (value : Json) (name : String) : Bool :=
  (entries value).isSome
    && (value.member "name").any (·.isText name)
    && (value.member "dataHash").any (fun v => (v.text isHash32).isSome)
    && (value.member "hashType").any (·.isText "data2")
    && (value.member "txHash").any (fun v => (v.text isHash32).isSome)
    && (value.member "index").any (fun v => v.nonnegative.isSome)
    && (value.member "capacityShannons").any (fun v => (v.text isCapacity).isSome)

/-- `deployedRecord`. -/
def deployedRecord (value : Json) (name : String) : Outcome String Json := do
  rejectIf (!isDeployedRecord value name)
    ("existing deployment manifest has an invalid '" ++ name ++ "' record")
  return value

/-- The artifacts of an object that looks like a manifest. -/
def manifestArtifacts (value : Json) : Option (List (String × Json)) := do
  guard (← value.member "schema_version").isOne
  guard ((← value.member "network").isText "testnet")
  guard (← value.member "published").isTrue
  guard ((← value.member "hash_type").isText "data2")
  guard ((← value.member "note").text fun _ => true).isSome
  entries (← value.member "artifacts")

/-- `Object.fromEntries(Object.entries(artifacts).map(...))`: the names are distinct, so the
    entries are those that were there. -/
def checkedEntries : List (String × Json) → Outcome String (List (String × Json))
  | [] => .ok []
  | (name, record) :: rest => do
      let record ← deployedRecord record name
      let rest ← checkedEntries rest
      return (name, record) :: rest

/-- `existingArtifacts`. -/
def existingArtifacts : Option Json → Outcome String (List (String × Json))
  | none => .ok []
  | some value => do
      let artifacts ← okOr "existing deployment manifest is malformed" (manifestArtifacts value)
      checkedEntries artifacts

/-- The number that a name stands for if it is an array index: a number below `2^32 - 1`,
    written without leading zeros. -/
def arrayIndex (name : String) : Option Nat :=
  let index := name.toList.foldl (fun n c => n * 10 + (c.toNat - '0'.toNat)) 0
  if isDecimal name ∧ index < 2 ^ 32 - 1 then some index else none

/-- Whether a new member stands before one that is there: the array indices of an object come
    first, in ascending order, and the other names as they were added. -/
def precedes (name key : String) : Bool :=
  (arrayIndex name).any fun index => (arrayIndex key).all fun other => index < other

/-- `object[name] = value`.  A member that is there is replaced; `__proto__` is no member of
    an object that has none of its own, its prototype is replaced instead. -/
def setMember (name : String) (value : Json) : List (String × Json) → List (String × Json)
  | [] => if name = "__proto__" then [] else [(name, value)]
  | (key, old) :: rest =>
      if key = name then (key, value) :: rest
      else if precedes name key then (name, value) :: (key, old) :: rest
      else (key, old) :: setMember name value rest

/-- The loop of `buildDeploymentManifest`. -/
def putRecords : List DeployedRecord → List (String × Json) →
    Outcome String (List (String × Json))
  | [], artifacts => .ok artifacts
  | record :: records, artifacts => do
      let value ← deployedRecord record.value record.name
      putRecords records (setMember record.name value artifacts)

/-- `note`. -/
def deploymentNote : String :=
  "Outpoints recorded by tools/deploy. Each cell's on-chain data hash was re-read and verified "
    ++ "after commitment."

/-- `DeploymentManifest`. -/
def deploymentManifest (artifacts : List (String × Json)) : Json :=
  .object [("schema_version", .number 1), ("network", .string "testnet"),
    ("published", .bool true), ("hash_type", .string "data2"), ("note", .string deploymentNote),
    ("artifacts", .object artifacts)]

/-- `buildDeploymentManifest`. -/
def buildDeploymentManifest (existing : Option Json) (records : List DeployedRecord) :
    Outcome String Json := do
  let artifacts ← existingArtifacts existing
  let artifacts ← putRecords records artifacts
  return deploymentManifest artifacts

/-! ## Publishing -/

section Publishing

-- `publish` says what the publisher does at each position, which may depend on anything that
-- happened before: it returns a record or fails
variable {T : Type} (existing : Option Json) (cells : List T)
  (publish : Nat → T → Outcome String DeployedRecord)

/-- `for (const cell of cells) records.push(await publish(cell))`. -/
def publishLoop : Nat → List T → List DeployedRecord → Outcome String (List DeployedRecord)
  | _, [], records => .ok records
  | index, cell :: cells, records => do
      let record ← publish index cell
      publishLoop (index + 1) cells (records ++ [record])

/-- `publishDeployment`. -/
def publishDeployment : Outcome String Json := do
  let validated ← buildDeploymentManifest existing []
  let records ← publishLoop publish 0 cells []
  buildDeploymentManifest (some validated) records

/-! ## What should be recorded -/

/-- The records of the cells up to the first failure. -/
def landedFrom : Nat → List T → List DeployedRecord
  | _, [] => []
  | index, cell :: cells =>
      match publish index cell with
      | .ok record => record :: landedFrom (index + 1) cells
      | _ => []

/-- The records of the cells whose publication succeeded: none is published on top of a
    manifest that is refused. -/
def landed : List DeployedRecord :=
  match existingArtifacts existing with
  | .ok _ => landedFrom publish 0 cells
  | _ => []

/-- The artifacts of a manifest as it stands. -/
def artifactsOf (manifest : Option Json) : List (String × Json) :=
  ((manifest.bind (·.member "artifacts")).bind entries).getD []

/-- The records there are to be written: those of the manifest that was returned, and after a
    failure those that were there. -/
def available : List (String × Json) :=
  match publishDeployment existing cells publish with
  | .ok manifest => artifactsOf (some manifest)
  | _ => artifactsOf existing

/-- **No record is lost**: neither of a cell that was published nor of the existing manifest,
    but for names that were published again. -/
structure Recorded : Prop where
  published : ∀ record ∈ landed existing cells publish,
    (available existing cells publish).lookup record.name = some record.value
  retained : ∀ name value, (artifactsOf existing).lookup name = some value →
    (∀ record ∈ landed existing cells publish, record.name ≠ name) →
    (available existing cells publish).lookup name = some value

/-- The manifest is accepted, every publication succeeds, and every record is one that
    `deployedRecord` accepts. -/
structure Completes : Prop where
  accepted : ∃ artifacts, existingArtifacts existing = .ok artifacts
  published : ∀ index cell, cells[index]? = some cell → ∃ record, publish index cell = .ok record
  valid : ∀ record ∈ landed existing cells publish,
    isDeployedRecord record.value record.name = true

/-- When nothing is lost: the publication completes and no two records share a name, nor is
    one named `__proto__` unless the manifest has such a member; or it does not complete, and
    what had been published by then was in the manifest already. -/
def NoneLost : Prop :=
  (Completes existing cells publish
      ∧ (∀ record ∈ landed existing cells publish, ∀ record' ∈ landed existing cells publish,
          record.name = record'.name → record = record')
      ∧ ∀ record ∈ landed existing cells publish, record.name = "__proto__" →
          (artifactsOf existing).lookup "__proto__" ≠ none)
    ∨ (¬ Completes existing cells publish
      ∧ ∀ record ∈ landed existing cells publish,
          (artifactsOf existing).lookup record.name = some record.value)

end Publishing

/-! ## Manifests -/

/-- A record is returned as it is, if it is one. -/
theorem deployedRecord_eq_ok {value out : Json} {name : String} :
    deployedRecord value name = .ok out ↔ isDeployedRecord value name = true ∧ out = value := by
  rw [deployedRecord, rejectIf_bind_eq_ok, pure_eq, Outcome.ok.injEq, Bool.not_eq_true',
    Bool.not_eq_false, eq_comm (a := value)]

/-- So are the entries of a manifest. -/
theorem checkedEntries_eq_ok {es : List (String × Json)} :
    ∀ {out}, checkedEntries es = .ok out
      ↔ out = es ∧ ∀ e ∈ es, isDeployedRecord e.2 e.1 = true := by
  induction es with
  | nil =>
      intro out
      rw [checkedEntries, Outcome.ok.injEq, eq_comm, and_iff_left nofun]
  | cons e es ih =>
      intro out
      obtain ⟨name, record⟩ := e
      simp only [checkedEntries, bind_eq_ok, deployedRecord_eq_ok, ih, pure_eq, Outcome.ok.injEq,
        List.forall_mem_cons]
      constructor
      · rintro ⟨_, ⟨hvalid, rfl⟩, _, ⟨rfl, hall⟩, rfl⟩
        exact ⟨rfl, hvalid, hall⟩
      · rintro ⟨rfl, hvalid, hall⟩
        exact ⟨_, ⟨hvalid, rfl⟩, _, ⟨rfl, hall⟩, rfl⟩

/-- What is read of an accepted manifest are its artifacts, all of them records. -/
theorem existingArtifacts_eq_ok {existing : Option Json} {artifacts : List (String × Json)}
    (h : existingArtifacts existing = .ok artifacts) :
    artifacts = artifactsOf existing
      ∧ ∀ e ∈ artifacts, isDeployedRecord e.2 e.1 = true := by
  cases existing with
  | none =>
      cases h
      exact ⟨rfl, nofun⟩
  | some value =>
      obtain ⟨es, hes, hchecked⟩ := bind_eq_ok.mp h
      obtain ⟨rfl, hvalid⟩ := checkedEntries_eq_ok.mp hchecked
      refine ⟨?_, hvalid⟩
      have hes := okOr_eq_ok.mp hes
      -- the members that are checked come first, the artifacts last
      simp only [manifestArtifacts, Option.bind_eq_bind, Option.bind_eq_some_iff] at hes
      obtain ⟨_, -, _, -, _, -, _, -, _, -, _, -, _, -, _, -, _, -, _, -, members, hmembers,
        hentries⟩ := hes
      rw [artifactsOf, Option.bind_some, hmembers, Option.bind_some, hentries, Option.getD_some]

/-- A manifest that was built is accepted. -/
theorem existingArtifacts_manifest {artifacts : List (String × Json)}
    (h : ∀ e ∈ artifacts, isDeployedRecord e.2 e.1 = true) :
    existingArtifacts (some (deploymentManifest artifacts)) = .ok artifacts := by
  have hartifacts : manifestArtifacts (deploymentManifest artifacts) = some artifacts := by
    rfl
  rw [existingArtifacts, hartifacts, okOr_some, ok_bind]
  exact checkedEntries_eq_ok.mpr ⟨rfl, h⟩

/-! ## Members of an object -/

theorem not_precedes_proto (key : String) : precedes "__proto__" key = false := by
  have hindex : arrayIndex "__proto__" = none := by decide +kernel
  rw [precedes, hindex]
  rfl

/-- Setting a member is setting what is found by its name, wherever it stands. -/
theorem lookup_setMember (name : String) (value : Json) (key : String) :
    ∀ artifacts : List (String × Json), (setMember name value artifacts).lookup key
      = if key = name then
          if name = "__proto__" ∧ artifacts.lookup name = none then none else some value
        else artifacts.lookup key := by
  intro artifacts
  induction artifacts with
  | nil =>
      by_cases hproto : name = "__proto__"
      · simp [setMember, hproto]
      · by_cases hkey : key = name
        · simp [setMember, hproto, hkey]
        · simp [setMember, hproto, hkey]
  | cons e rest ih =>
      obtain ⟨k, old⟩ := e
      rw [setMember]
      by_cases hk : k = name
      · subst hk
        rw [if_pos rfl]
        by_cases hkey : key = k
        · subst hkey
          simp
        · have hb : (key == k) = false := beq_eq_false_iff_ne.mpr hkey
          simp [List.lookup_cons, hb, hkey]
      · rw [if_neg hk]
        have hname : (name == k) = false := beq_eq_false_iff_ne.mpr (Ne.symm hk)
        by_cases hprecedes : precedes name k = true
        · -- an array index is not `__proto__`
          have hproto : name ≠ "__proto__" := by
            rintro rfl
            rw [not_precedes_proto] at hprecedes
            cases hprecedes
          rw [if_pos hprecedes, List.lookup_cons]
          by_cases hkey : key = name
          · simp [hkey, hproto]
          · have hother : (key == name) = false := beq_eq_false_iff_ne.mpr hkey
            simp [hother, hkey]
        · rw [if_neg hprecedes]
          by_cases hkey : key = k
          · subst hkey
            simp [hk]
          · have hkey : (key == k) = false := beq_eq_false_iff_ne.mpr hkey
            simp only [List.lookup_cons, hkey, hname, ih]

/-- The artifacts after the records of a list were put. -/
def putAll (records : List DeployedRecord) (artifacts : List (String × Json)) :
    List (String × Json) :=
  records.foldl (fun artifacts record => setMember record.name record.value artifacts) artifacts

/-- **The records are put in one after the other, all valid.** -/
theorem putRecords_eq_ok {records : List DeployedRecord} :
    ∀ {artifacts out}, putRecords records artifacts = .ok out
      ↔ (∀ record ∈ records, isDeployedRecord record.value record.name = true)
        ∧ out = putAll records artifacts := by
  induction records with
  | nil =>
      intro artifacts out
      rw [putRecords, Outcome.ok.injEq, eq_comm, and_iff_right nofun]
      rfl
  | cons record records ih =>
      intro artifacts out
      simp only [putRecords, bind_eq_ok, deployedRecord_eq_ok, ih, List.forall_mem_cons]
      constructor
      · rintro ⟨_, ⟨hvalid, rfl⟩, hall, rfl⟩
        exact ⟨⟨hvalid, hall⟩, rfl⟩
      · rintro ⟨⟨hvalid, hall⟩, rfl⟩
        exact ⟨_, ⟨hvalid, rfl⟩, hall, rfl⟩

/-- An artifact that no record replaces stays. -/
theorem lookup_putAll_of_not_mem {records : List DeployedRecord} {name : String} :
    ∀ {artifacts}, (∀ record ∈ records, record.name ≠ name) →
      (putAll records artifacts).lookup name = artifacts.lookup name := by
  induction records with
  | nil => exact fun _ => rfl
  | cons record records ih =>
      intro artifacts h
      obtain ⟨hrecord, hrest⟩ := List.forall_mem_cons.mp h
      show (putAll records (setMember record.name record.value artifacts)).lookup name = _
      rw [ih hrest, lookup_setMember, if_neg (Ne.symm hrecord)]

/-- `__proto__` does not become a member. -/
theorem lookup_putAll_proto {records : List DeployedRecord} :
    ∀ {artifacts}, artifacts.lookup "__proto__" = none →
      (putAll records artifacts).lookup "__proto__" = none := by
  induction records with
  | nil => exact fun h => h
  | cons record records ih =>
      intro artifacts h
      refine ih ?_
      rw [lookup_setMember]
      by_cases hname : "__proto__" = record.name
      · rw [if_pos hname, if_pos ⟨hname.symm, hname ▸ h⟩]
      · rw [if_neg hname, h]

/-- **The last record of a name is the one that is kept**, unless the name is `__proto__` and
    no member has it. -/
theorem lookup_putAll_of_mem {records : List DeployedRecord} {record : DeployedRecord} :
    ∀ {artifacts}, record ∈ records →
      (∃ last ∈ records, last.name = record.name
          ∧ (putAll records artifacts).lookup record.name = some last.value)
        ∨ (record.name = "__proto__" ∧ artifacts.lookup "__proto__" = none
          ∧ (putAll records artifacts).lookup record.name = none) := by
  induction records generalizing record with
  | nil => exact fun h => absurd h List.not_mem_nil
  | cons first records ih =>
      intro artifacts hmem
      have hput : putAll (first :: records) artifacts
          = putAll records (setMember first.name first.value artifacts) := rfl
      by_cases hlater : ∃ later ∈ records, later.name = record.name
      · -- a later record of the name decides
        obtain ⟨later, hlater, hname⟩ := hlater
        rw [hput, ← hname]
        obtain ⟨last, hlast, hlastName, hlookup⟩ | ⟨hproto, hnone, hlookup⟩ := ih hlater
        · exact .inl ⟨last, List.mem_cons_of_mem _ hlast, hlastName, hlookup⟩
        · refine .inr ⟨hproto, ?_, hlookup⟩
          rw [lookup_setMember] at hnone
          by_cases hfirst : "__proto__" = first.name
          · rw [if_pos hfirst, ← hfirst] at hnone
            by_contra hsome
            rw [if_neg fun hand => hsome hand.2] at hnone
            exact absurd hnone nofun
          · rwa [if_neg hfirst] at hnone
      · -- no later record has the name, so it is the first one's
        have hnone : ∀ later ∈ records, later.name ≠ record.name :=
          fun later hmem hname => hlater ⟨later, hmem, hname⟩
        obtain rfl : record = first := by
          rcases List.mem_cons.mp hmem with h | h
          · exact h
          · exact absurd rfl (hnone record h)
        rw [hput, lookup_putAll_of_not_mem hnone, lookup_setMember, if_pos rfl]
        by_cases hproto : record.name = "__proto__" ∧ artifacts.lookup record.name = none
        · rw [if_pos hproto]
          exact .inr ⟨hproto.1, hproto.1 ▸ hproto.2, rfl⟩
        · rw [if_neg hproto]
          exact .inl ⟨record, List.mem_cons_self .., rfl, rfl⟩

/-! ## Runs -/

section Runs

variable {T : Type} {publish : Nat → T → Outcome String DeployedRecord}

/-- **The loop returns the records of all cells**, or a publication failed. -/
theorem publishLoop_eq_ok {cells : List T} :
    ∀ {index records out}, publishLoop publish index cells records = .ok out
      ↔ (∀ i cell, cells[i]? = some cell → ∃ record, publish (index + i) cell = .ok record)
        ∧ out = records ++ landedFrom publish index cells := by
  induction cells with
  | nil =>
      intro index records out
      rw [publishLoop, landedFrom, List.append_nil, Outcome.ok.injEq, eq_comm, and_iff_right nofun]
  | cons cell cells ih =>
      intro index records out
      -- the first cell is published at `index`, the rest one index further on
      have hsplit : (∀ i c, (cell :: cells)[i]? = some c →
            ∃ record, publish (index + i) c = .ok record)
          ↔ (∃ record, publish index cell = .ok record)
            ∧ ∀ i c, cells[i]? = some c → ∃ record, publish (index + 1 + i) c = .ok record := by
        constructor
        · intro h
          refine ⟨h 0 cell rfl, ?_⟩
          intro i c hc
          rw [Nat.add_assoc, Nat.add_comm 1 i]
          exact h (i + 1) c hc
        · rintro ⟨hfirst, hrest⟩ i c hc
          cases i with
          | zero =>
              cases hc
              exact hfirst
          | succ i =>
              rw [Nat.add_comm i 1, ← Nat.add_assoc]
              exact hrest i c hc
      rw [publishLoop, bind_eq_ok, hsplit]
      constructor
      · rintro ⟨record, hrecord, h⟩
        obtain ⟨hrest, rfl⟩ := ih.mp h
        refine ⟨⟨⟨record, hrecord⟩, hrest⟩, ?_⟩
        rw [landedFrom, hrecord, List.append_assoc]
        rfl
      · rintro ⟨⟨⟨record, hrecord⟩, hrest⟩, rfl⟩
        refine ⟨record, hrecord, ih.mpr ⟨hrest, ?_⟩⟩
        rw [landedFrom, hrecord, List.append_assoc]
        rfl

variable {existing : Option Json} {cells : List T}

theorem buildDeploymentManifest_nil {manifest : Json} :
    buildDeploymentManifest existing [] = .ok manifest
      ↔ (∃ artifacts, existingArtifacts existing = .ok artifacts)
        ∧ manifest = deploymentManifest (artifactsOf existing) := by
  simp only [buildDeploymentManifest, bind_eq_ok, putRecords, ok_bind, pure_eq, Outcome.ok.injEq]
  constructor
  · rintro ⟨artifacts, hexisting, rfl⟩
    exact ⟨⟨artifacts, hexisting⟩, by rw [(existingArtifacts_eq_ok hexisting).1]⟩
  · rintro ⟨⟨artifacts, hexisting⟩, rfl⟩
    exact ⟨artifacts, hexisting, by rw [(existingArtifacts_eq_ok hexisting).1]⟩

/-- With a valid manifest the cells are published. -/
theorem landed_of_accepted {artifacts : List (String × Json)}
    (h : existingArtifacts existing = .ok artifacts) :
    landed existing cells publish = landedFrom publish 0 cells := by
  rw [landed, h]

/-- **What `publishDeployment` returns**: the existing artifacts with the records of all
    cells, if everything went well. -/
theorem publishDeployment_eq_ok {manifest : Json} :
    publishDeployment existing cells publish = .ok manifest
      ↔ Completes existing cells publish
        ∧ manifest = deploymentManifest
          (putAll (landed existing cells publish) (artifactsOf existing)) := by
  rw [publishDeployment, bind_eq_ok]
  -- the manifest is built twice; the second time from records already accepted
  have hsecond : ∀ {artifacts records out}, existingArtifacts existing = .ok artifacts →
      (buildDeploymentManifest (some (deploymentManifest (artifactsOf existing))) records = .ok out
        ↔ (∀ record ∈ records, isDeployedRecord record.value record.name = true)
          ∧ out = deploymentManifest (putAll records (artifactsOf existing))) := by
    intro artifacts records out hexisting
    obtain ⟨rfl, hvalid⟩ := existingArtifacts_eq_ok hexisting
    rw [buildDeploymentManifest, existingArtifacts_manifest hvalid, ok_bind, bind_eq_ok]
    constructor
    · rintro ⟨out', hput, h⟩
      obtain ⟨hall, rfl⟩ := putRecords_eq_ok.mp hput
      exact ⟨hall, (Outcome.ok.inj h).symm⟩
    · rintro ⟨hall, rfl⟩
      exact ⟨_, putRecords_eq_ok.mpr ⟨hall, rfl⟩, rfl⟩
  constructor
  · rintro ⟨validated, hvalidated, h⟩
    obtain ⟨⟨artifacts, hexisting⟩, rfl⟩ := buildDeploymentManifest_nil.mp hvalidated
    obtain ⟨records, hloop, hbuild⟩ := bind_eq_ok.mp h
    obtain ⟨hpublished, rfl⟩ := publishLoop_eq_ok.mp hloop
    obtain ⟨hall, rfl⟩ := (hsecond hexisting).mp hbuild
    have hlanded : landed existing cells publish = landedFrom publish 0 cells :=
      landed_of_accepted hexisting
    -- every cell was published, so the records are all that landed
    rw [List.nil_append, ← hlanded] at hall ⊢
    refine ⟨⟨⟨artifacts, hexisting⟩, ?_, hall⟩, rfl⟩
    intro i cell hcell
    rw [← Nat.zero_add i]
    exact hpublished i cell hcell
  · rintro ⟨hcompletes, rfl⟩
    obtain ⟨artifacts, hexisting⟩ := hcompletes.accepted
    refine ⟨_, buildDeploymentManifest_nil.mpr ⟨⟨artifacts, hexisting⟩, rfl⟩, ?_⟩
    have hloop : publishLoop publish 0 cells [] = .ok (landed existing cells publish) := by
      refine publishLoop_eq_ok.mpr ⟨?_, by rw [landed_of_accepted hexisting, List.nil_append]⟩
      intro i cell hcell
      rw [Nat.zero_add]
      exact hcompletes.published i cell hcell
    rw [hloop, ok_bind]
    exact (hsecond hexisting).mpr ⟨hcompletes.valid, rfl⟩

/-- A call that completes leaves all of it. -/
theorem available_of_completes (h : Completes existing cells publish) :
    available existing cells publish
      = putAll (landed existing cells publish) (artifactsOf existing) := by
  rw [available, publishDeployment_eq_ok.mpr ⟨h, rfl⟩]
  rfl

/-- One that throws leaves what was there. -/
theorem available_of_not_completes (h : ¬ Completes existing cells publish) :
    available existing cells publish = artifactsOf existing := by
  rw [available]
  split
  · rename_i manifest hok
    exact absurd (publishDeployment_eq_ok.mp hok).1 h
  · rfl

/-- **Records that were there stay**, however the publication ends. -/
theorem retained (existing : Option Json) (cells : List T)
    (publish : Nat → T → Outcome String DeployedRecord) (name : String) (value : Json)
    (hvalue : (artifactsOf existing).lookup name = some value)
    (hnames : ∀ record ∈ landed existing cells publish, record.name ≠ name) :
    (available existing cells publish).lookup name = some value := by
  by_cases hcompletes : Completes existing cells publish
  · rw [available_of_completes hcompletes, lookup_putAll_of_not_mem hnames, hvalue]
  · rw [available_of_not_completes hcompletes, hvalue]

/-- A record is its value. -/
theorem DeployedRecord.value_injective {r r' : DeployedRecord} (h : r.value = r'.value) :
    r = r' := by
  obtain ⟨name, dataHash, txHash, index, capacity⟩ := r
  obtain ⟨name', dataHash', txHash', index', capacity'⟩ := r'
  simp only [DeployedRecord.value, Json.object.injEq, List.cons.injEq, Prod.mk.injEq,
    Json.string.injEq, true_and, and_true] at h
  obtain ⟨rfl, rfl, rfl, hindex, rfl⟩ := h
  have hindex : index = index' := by
    cases index with
    | none =>
        cases index' with
        | none => rfl
        | some n => exact absurd hindex nofun
    | some n =>
        cases index' with
        | none => exact absurd hindex nofun
        | some n' => exact congrArg some (Json.number.inj hindex)
  rw [hindex]

/-- **Exactly when no record is lost.** -/
theorem recorded_iff_noneLost (existing : Option Json) (cells : List T)
    (publish : Nat → T → Outcome String DeployedRecord) :
    Recorded existing cells publish ↔ NoneLost existing cells publish := by
  by_cases hcompletes : Completes existing cells publish
  · have havailable := available_of_completes hcompletes
    constructor
    · intro hrecorded
      -- two records of one name: the object keeps the later, so they must agree
      refine .inl ⟨hcompletes, ?_, ?_⟩
      · intro r hr r' hr' hname
        have h := hrecorded.published r hr
        have h' := hrecorded.published r' hr'
        rw [hname, h'] at h
        exact (DeployedRecord.value_injective (Option.some.inj h)).symm
      · intro r hr hproto hnone
        have h := hrecorded.published r hr
        -- the name `__proto__` sets the prototype and adds no member
        rw [havailable, hproto, lookup_putAll_proto hnone] at h
        exact absurd h nofun
    · rintro (⟨-, hnames, hproto⟩ | ⟨hno, -⟩)
      · refine ⟨?_, retained existing cells publish⟩
        intro r hr
        rw [havailable]
        obtain ⟨last, hlast, hname, hlookup⟩ | ⟨hname, hnone, -⟩ := lookup_putAll_of_mem hr
        · rw [hlookup, hnames last hlast r hr hname]
        · exact absurd hnone (hproto r hr hname)
      · exact absurd hcompletes hno
  · have havailable := available_of_not_completes hcompletes
    constructor
    · intro hrecorded
      -- a call that throws returns no manifest, so only the earlier records remain
      refine .inr ⟨hcompletes, ?_⟩
      intro r hr
      rw [← havailable]
      exact hrecorded.published r hr
    · rintro (⟨hyes, -⟩ | ⟨-, hthere⟩)
      · exact absurd hyes hcompletes
      · refine ⟨?_, retained existing cells publish⟩
        intro r hr
        rw [havailable]
        exact hthere r hr

end Runs

/-- The record of a code cell that landed. -/
def accountLockRecord : DeployedRecord where
  name := "account_lock"
  dataHash := "0x1111111111111111111111111111111111111111111111111111111111111111"
  txHash := "0x2222222222222222222222222222222222222222222222222222222222222222"
  index := some 0
  capacityShannons := "3350900000000"

/-- A publisher whose second publication fails. -/
def failsSecond (index : Nat) (_ : String) : Outcome String DeployedRecord :=
  if index = 0 then .ok accountLockRecord else .err "timeout"

/-- **A failure loses the records of the cells before it.** -/
theorem failure_loses_record :
    ¬ ∀ (T : Type) (existing : Option Json) (cells : List T)
      (publish : Nat → T → Outcome String DeployedRecord), Recorded existing cells publish := by
  intro hall
  have hrecorded := hall String none ["account_lock", "verifier_p256"] failsSecond
  have hlanded : landed none ["account_lock", "verifier_p256"] failsSecond
      = [accountLockRecord] := rfl
  have havailable : available none ["account_lock", "verifier_p256"] failsSecond = [] := rfl
  have hrecord := hrecorded.published accountLockRecord
    (by rw [hlanded]; exact List.mem_singleton_self _)
  rw [havailable] at hrecord
  exact absurd hrecord nofun

end CkbDeployment
