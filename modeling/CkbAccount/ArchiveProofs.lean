import CkbAccount.ArchivePlacesProofs

/-! # Archiving is all or nothing

    `archiveRealTestnetState` under any failure of its operations.

    * `Progress`: what holds wherever the code can throw, in terms of the variables that the
      rollback reads;
    * `meets_moveToArchive`: the moves keep it;
    * `rollback_restores`: from such a point both get back to where they were;
    * `archive_all_or_nothing`: what a call leaves behind, and what every disk of its run has. -/

namespace CkbArchive

open Process FaultRun FileTree CkbSchemas

/-! ## Writing the summary -/

section Summary

variable {σ α : Type} {repoRoot : Path} {label : String} {hook : Path → Tree → Tree}
  {P : σ → History → Prop}

/-- The assertion survives what is done in the staging directory outside the items. -/
def Steady (repoRoot : Path) (label : String) (P : σ → History → Prop) : Prop :=
  ∀ l h t ps, P l h → Within ps h.disk t → (∀ p ∈ ps, Own repoRoot label false p) →
    P l (h.push t)

/-- What own work keeps, a look keeps. -/
theorem Steady.lasting (hP : Steady repoRoot label P) : Lasting P :=
  fun l h hPh => hP l h h.disk [] hPh Within.refl nofun

/-- **The rule of an operation on own paths.** -/
theorem Steady.onPerform (hP : Steady repoRoot label P) {op : FileOp} {ps : List Path}
    (hps : ∀ p ∈ ps, Own repoRoot label false p)
    (hop : ∀ t r t', op.act hook t = .ok (r, t') → Within ps t t') :
    Code.Meets (fileEnv hook) P (perform op) (fun _ => P) P :=
  meets_perform (fun _ _ h => h) fun l h r t hPh hact => hP l h t ps hPh (hop h.disk r t hact) hps

/-- The same for one whose failure is ignored. -/
theorem Steady.onIgnored (hP : Steady repoRoot label P) {op : FileOp} {ps : List Path}
    (hps : ∀ p ∈ ps, Own repoRoot label false p)
    (hop : ∀ t r t', op.act hook t = .ok (r, t') → Within ps t t') :
    Code.Meets (fileEnv hook) P (ignored (cleanup op)) (fun _ => P) P := by
  refine Code.Meets.bind (R := fun _ => P) (Code.Meets.caught ?_) fun _ =>
    Code.Meets.pure fun _ _ h => h
  exact meets_cleanup (fun _ _ _ h _ => h) fun l h r t hPh hact =>
    hP l h t ps hPh (hop h.disk r t hact) hps

theorem meets_syncDirectory (hP : Lasting P) (dir : Path) :
    Code.Meets (fileEnv hook) P (syncDirectory dir) (fun _ => P) P := by
  have hsync : Code.Meets (fileEnv hook) P (perform (.sync dir)) (fun _ => P) P :=
    meets_look hP fun t r t' h => (Prod.mk.inj (Except.ok.inj h)).2.symm
  have hclose : Code.Meets (fileEnv hook) P (perform (.close dir)) (fun _ => P) P :=
    meets_look hP fun t r t' h => (Prod.mk.inj (Except.ok.inj h)).2.symm
  refine Code.Meets.bind (R := fun _ => P) ?_ fun _ => ?_
  · refine meets_look hP fun t r t' h => ?_
    obtain ⟨kind, -, heq⟩ := map_eq_ok h
    exact (Prod.mk.inj heq).2.symm
  · refine Code.Meets.bind (R := fun _ => P) ?_ fun _ => hclose
    exact Code.Meets.tryCatch hsync fun _ =>
      Code.Meets.bind hclose fun _ => Code.Meets.throw fun _ _ h => h

variable {Q : WriteLocals → History → Prop} {p temporary : Path}

/-- Writing a file by a temporary one is work on own paths. -/
theorem Steady.onReplaceFile (hQ : Steady repoRoot label Q) (hp : Own repoRoot label false p)
    (htemporary : Own repoRoot label false temporary) (rt : Runtime) (schema : Json → Option α)
    (text : String) (hlocals : ∀ l l' h, Q l h → Q l' h) :
    Code.Meets (fileEnv hook) Q (replaceFile rt schema p temporary text)
      (fun _ => Q) Q := by
  have hone : ∀ q ∈ [temporary], Own repoRoot label false q :=
    List.forall_mem_singleton.mpr htemporary
  have hboth : ∀ q ∈ [temporary, p], Own repoRoot label false q :=
    List.forall_mem_cons.mpr ⟨htemporary, List.forall_mem_singleton.mpr hp⟩
  -- the two looks at the files change nothing on the disk
  have hlook : ∀ {op : FileOp}, (∀ t r t', op.act hook t = .ok (r, t') → t' = t) →
      Code.Meets (fileEnv hook) Q (perform op) (fun _ => Q) Q :=
    fun h => meets_look hQ.lasting h
  refine Code.Meets.bind (hQ.onPerform hone fun t r t' h => Within.make (ok_of_map h))
    fun _ => ?_
  refine Code.Meets.bind (R := fun _ => Q) (Code.Meets.assign fun l h => hlocals l _ h)
    fun _ => ?_
  refine Code.Meets.bind (hQ.onPerform hone fun t r t' h => Within.alter (ok_of_map h))
    fun _ => ?_
  refine Code.Meets.bind (hlook fun t r t' h => (Prod.mk.inj (Except.ok.inj h)).2.symm)
    fun _ => ?_
  refine Code.Meets.bind (hlook fun t r t' h => (Prod.mk.inj (Except.ok.inj h)).2.symm)
    fun _ => ?_
  refine Code.Meets.bind (R := fun _ => Q) (Code.Meets.assign fun l h => hlocals l _ h)
    fun _ => ?_
  refine Code.Meets.bind (hQ.onPerform hboth fun t r t' h => Within.rename (ok_of_map h))
    fun _ => ?_
  refine Code.Meets.bind (hQ.onPerform (List.forall_mem_singleton.mpr hp)
    fun t r t' h => Within.alter (ok_of_map h)) fun _ => ?_
  refine Code.Meets.bind (meets_syncDirectory hQ.lasting _) fun _ => ?_
  exact Code.Meets.bind (meets_readFile hQ.lasting _) fun text => meets_parsed rt schema text

theorem Steady.onDiscardTemporary (hQ : Steady repoRoot label Q)
    (htemporary : Own repoRoot label false temporary) (e : ArchiveError) :
    Code.Meets (fileEnv hook) Q (discardTemporary temporary e : Task WriteLocals α)
      (fun _ => Q) Q := by
  refine Code.Meets.bind (R := fun _ => Q) (Code.Meets.locals fun _ _ h => h) fun l => ?_
  refine Code.Meets.bind (R := fun _ => Q) ?_ fun _ => ?_
  · refine Code.Meets.when (fun _ => ?_) fun _ _ _ h => h
    have hnil : ∀ q ∈ ([] : List Path), Own repoRoot label false q := nofun
    refine hQ.onIgnored hnil fun t r t' h => ?_
    rw [(Prod.mk.inj (Except.ok.inj h)).2]
    exact Within.refl
  · refine Code.Meets.bind (R := fun _ => Q) ?_ fun _ => Code.Meets.throw fun _ _ h => h
    refine Code.Meets.when (fun _ => ?_) fun _ _ _ h => h
    exact hQ.onIgnored (List.forall_mem_singleton.mpr htemporary) fun t r t' h =>
      Within.unlink (ok_of_map h)

/-- **Writing a document in the staging directory moves no item**, whether it succeeds, or fails
    before or after the document is in its place. -/
theorem Steady.onWritePrivateJson (hP : Steady repoRoot label P) (hp : Own repoRoot label false p)
    (rt : Runtime) (schema : Json → Option α) (encode : α → Json) (value : α)
    (htemporary : Own repoRoot label false (extended p ("." ++ rt.unique ++ ".tmp"))) :
    Code.Meets (fileEnv hook) P (writePrivateJson rt schema encode p value)
      (fun _ => P) P := by
  refine Code.Meets.bind (R := fun _ => P) ?_ fun verified => ?_
  · exact Code.Meets.of (fun _ _ _ _ h => h) fun _ _ h => h
  refine Code.Meets.bind
    (meets_requireIfExists hP.lasting _ (meets_requirePrivateFile hP.lasting _)) fun _ => ?_
  refine Code.Meets.scope fun l => ?_
  have hQ : Steady repoRoot label (fun (_ : WriteLocals) h => P l h) :=
    fun _ h t ps hPh hwithin hps => hP l h t ps hPh hwithin hps
  refine Code.Meets.weaken (Code.Meets.tryCatch ?_ (hQ.onDiscardTemporary htemporary))
    (fun _ _ h => h.2) (fun _ _ _ h => h) fun _ _ h => h
  exact hQ.onReplaceFile hp htemporary rt schema _ fun _ _ _ h => h

/-- No name that starts as the summary's does is an item's. -/
theorem summary_ne (suffix : String) :
    summaryName ++ suffix ≠ activeName ∧ summaryName ++ suffix ≠ manifestName := by
  constructor
  · intro h
    have hlist := congrArg String.toList h
    rw [String.toList_append] at hlist
    exact absurd (congrArg List.head? hlist) (by simp [summaryName, activeName])
  · intro h
    have hlist := congrArg String.toList h
    rw [String.toList_append] at hlist
    exact absurd (congrArg List.head? hlist) (by simp [summaryName, manifestName])

/-- The summary of either directory is an own path. -/
theorem own_summary {reserved : Bool} {l : Location} (hl : l = .archive → reserved = true) :
    Own repoRoot label reserved ((siteNamed repoRoot label).directory l ++ [summaryName]) := by
  obtain ⟨hactive, hmanifest⟩ := summary_ne ""
  rw [String.append_empty] at hactive hmanifest
  exact ⟨l, summaryName, rfl, hl, hactive, hmanifest⟩

/-- So is its temporary file. -/
theorem own_temporary (suffix : String) :
    Own repoRoot label false (extended ((siteNamed repoRoot label).staging ++ [summaryName])
      suffix) := by
  rw [extended, List.dropLast_concat, List.getLastD_concat]
  exact ⟨.staging, _, rfl, (fun h => by cases h), (summary_ne suffix).1, (summary_ne suffix).2⟩

end Summary

/-! ## The moves -/

section Moves

variable (repoRoot : Path) (label : String) (initial : Tree)

/-- What the handler finds, wherever the code threw. -/
structure Progress (l : Locals) (h : History) : Prop where
  placed : Placed repoRoot label initial l.reservedArchive l.activeLocation l.manifestLocation h
  summary : l.summaryLocation = some .archive → l.reservedArchive = true

/-- Both have left, if they were there. -/
structure Staged (l : Locals) (h : History) : Prop extends Progress repoRoot label initial l h where
  activeLeft : l.activeLocation = none → initial.node (activeItem repoRoot).original = none
  manifestLeft : l.manifestLocation = none → initial.node (manifestItem repoRoot).original = none

variable {repoRoot label initial} {hook : Path → Tree → Tree}

theorem progress_lasting : Lasting (Progress repoRoot label initial) :=
  fun _ _ h => ⟨h.placed.look, h.summary⟩

/-- **What exists is moved to the staging directory, or nothing is lost.** -/
theorem meets_stageState {manifest : Option AccountManifest}
    (hsome : manifest.isSome = true → (initial.node (manifestItem repoRoot).original).isSome)
    (hnone : manifest.isSome = false → initial.node (manifestItem repoRoot).original = none) :
    Code.Meets (fileEnv hook)
      (fun l h => Progress repoRoot label initial l h ∧ l = Locals.initial)
      (stageState (createRealTestnetPaths repoRoot) (siteNamed repoRoot label) manifest)
      (fun _ l h => Staged repoRoot label initial l h ∧ l.reservedArchive = false)
      (Progress repoRoot label initial) := by
  have hlasting : Lasting fun l h => Progress repoRoot label initial l h ∧ l = Locals.initial :=
    fun l h hl => ⟨progress_lasting l h hl.1, hl.2⟩
  -- after the first move: the active directory has left, the manifest is where it was
  refine Code.Meets.bind (R := fun _ l h => Progress repoRoot label initial l h
      ∧ (l.activeLocation = none → initial.node (activeItem repoRoot).original = none)
      ∧ l.manifestLocation = none ∧ l.reservedArchive = false) ?_ fun _ => ?_
  · refine (meets_whenExists hlasting _ ?_ ?_).weaken (fun _ _ h => h) (fun _ _ _ h => h)
      fun _ _ h => h.1
    · refine Code.Meets.bind (R := fun _ l h => Progress repoRoot label initial
          { l with activeLocation := some .staging } h ∧ l = Locals.initial) ?_ fun _ => ?_
      · refine meets_effect (fun _ _ => ok_of_map) (fun _ _ h => h.1) fun l h r t hl hrename => ?_
        obtain ⟨⟨hprogress, rfl⟩, hthere⟩ := hl
        have hinitial : (initial.node (activeItem repoRoot).original).isSome := by
          rw [← Tree.sub_nil, ← hprogress.placed.active.here, Tree.sub_nil]
          exact hthere
        exact ⟨⟨hprogress.placed.moveActive nofun hinitial nofun hrename, nofun⟩, rfl⟩
      · refine Code.Meets.assign fun l h hl => ⟨hl.1, nofun, ?_, ?_⟩
        · rw [hl.2]
          rfl
        · rw [hl.2]
          rfl
    · rintro l h ⟨hprogress, rfl⟩ hvacant
      refine ⟨hprogress, fun _ => ?_, rfl, rfl⟩
      rw [← Tree.sub_nil, ← hprogress.placed.active.here, Tree.sub_nil]
      exact hvacant
  · refine Code.Meets.when (fun hb => ?_) fun hb l h hl => ?_
    · refine Code.Meets.bind (R := fun _ l h => Staged repoRoot label initial
          { l with manifestLocation := some .staging } h ∧ l.reservedArchive = false) ?_ fun _ => ?_
      · refine meets_effect (fun _ _ => ok_of_map) (fun _ _ h => h.1) fun l h r t hl hrename => ?_
        obtain ⟨hprogress, hleft, hmanifest, hreserved⟩ := hl
        have hplaced := hprogress.placed
        rw [hmanifest] at hplaced
        exact ⟨⟨⟨hplaced.moveManifest nofun (hsome hb) nofun hrename, hprogress.summary⟩, hleft,
          nofun⟩, hreserved⟩
      · exact Code.Meets.assign fun l h hl => hl
    · obtain ⟨hprogress, hleft, -, hreserved⟩ := hl
      exact ⟨⟨hprogress, hleft, fun _ => hnone (Bool.not_eq_true _ ▸ hb)⟩, hreserved⟩

/-- The staging directory may be worked in. -/
theorem staged_steady : Steady repoRoot label fun l h =>
    Staged repoRoot label initial l h ∧ l.reservedArchive = false := by
  rintro l h t ps ⟨hstaged, hreserved⟩ hwithin hps
  have hown : ∀ p ∈ ps, Own repoRoot label l.reservedArchive p := by
    rw [hreserved]
    exact hps
  exact ⟨⟨⟨hstaged.placed.within hwithin hown, hstaged.summary⟩, hstaged.activeLeft,
    hstaged.manifestLeft⟩, hreserved⟩

/-- The archive directory is reserved by making it. -/
theorem meets_reserveArchive :
    Code.Meets (fileEnv hook)
      (fun l h => Staged repoRoot label initial l h ∧ l.reservedArchive = false)
      (reserveArchive (siteNamed repoRoot label))
      (fun _ l h => Staged repoRoot label initial l h ∧ l.reservedArchive = true)
      (Progress repoRoot label initial) := by
  refine Code.Meets.tryCatch (R := Progress repoRoot label initial) ?_ fun e => ?_
  · refine Code.Meets.bind (R := fun _ l h => Staged repoRoot label initial
        { l with reservedArchive := true } h) ?_ fun _ => ?_
    · refine meets_effect (fun _ _ => ok_of_map) (fun _ _ h => h.1.toProgress)
        fun l h r t hl hmkdir => ?_
      obtain ⟨hstaged, hreserved⟩ := hl
      have hplaced := hstaged.placed
      rw [hreserved] at hplaced
      exact ⟨⟨hplaced.reserve hmkdir, fun _ => rfl⟩, hstaged.activeLeft, hstaged.manifestLeft⟩
    · refine Code.Meets.bind (R := fun _ l h => Staged repoRoot label initial l h
          ∧ l.reservedArchive = true) (Code.Meets.assign fun _ _ h => ⟨h, rfl⟩) fun _ => ?_
      refine meets_effect (fun _ _ => ok_of_map) (fun _ _ h => h.1.toProgress)
        fun l h r t hl hchmod => ?_
      obtain ⟨hstaged, hreserved⟩ := hl
      have hplaced := hstaged.placed.directory (l := .archive) (fun _ => hreserved)
        (Tree.alter_eq_ok hchmod).2
      exact ⟨⟨⟨hplaced, hstaged.summary⟩, hstaged.activeLeft, hstaged.manifestLeft⟩, hreserved⟩
  · split
    · exact Code.Meets.throw fun _ _ h => h
    · exact Code.Meets.throw fun _ _ h => h

/-- Nothing is left in the staging directory but the summary. -/
theorem meets_settleArchive :
    Code.Meets (fileEnv hook)
      (fun l h => Staged repoRoot label initial l h ∧ l.reservedArchive = true)
      (settleArchive (siteNamed repoRoot label))
      (fun _ l h => Staged repoRoot label initial l h ∧ l.reservedArchive = true
        ∧ l.activeLocation ≠ some .staging ∧ l.manifestLocation ≠ some .staging)
      (Progress repoRoot label initial) := by
  refine Code.Meets.bind (R := fun l₀ l h => l₀ = l ∧ Staged repoRoot label initial l h
    ∧ l.reservedArchive = true) (Code.Meets.locals fun _ _ h => ⟨rfl, h⟩) fun l₀ => ?_
  refine Code.Meets.bind (R := fun _ l h => Staged repoRoot label initial l h
    ∧ l.reservedArchive = true ∧ l.activeLocation ≠ some .staging) ?_ fun _ => ?_
  · -- the active state, if it is still in the staging directory
    -- the manifest, in the same way
    refine Code.Meets.when (fun hb => ?_) fun hb l h hl => ⟨hl.2.1, hl.2.2, hl.1 ▸ hb⟩
    refine Code.Meets.bind (R := fun _ l h => Staged repoRoot label initial
        { l with activeLocation := some .archive } h ∧ l.reservedArchive = true) ?_ fun _ =>
      Code.Meets.assign fun _ _ h => ⟨h.1, h.2, nofun⟩
    refine meets_effect (fun _ _ => ok_of_map) (fun _ _ h => h.2.1.toProgress)
      fun l h r t hl hrename => ?_
    obtain ⟨rfl, hstaged, hreserved⟩ := hl
    have hplaced := hstaged.placed
    have hsome := hplaced.active.moved (hb ▸ nofun)
    rw [hb] at hplaced
    exact ⟨⟨⟨hplaced.moveActive nofun hsome (fun _ => hreserved) hrename, hstaged.summary⟩, nofun,
      hstaged.manifestLeft⟩, hreserved⟩
  refine Code.Meets.bind (R := fun l₀ l h => l₀ = l ∧ Staged repoRoot label initial l h
    ∧ l.reservedArchive = true ∧ l.activeLocation ≠ some .staging)
    (Code.Meets.locals fun _ _ h => ⟨rfl, h⟩) fun l₀ => ?_
  refine Code.Meets.bind (R := fun _ l h => Staged repoRoot label initial l h
    ∧ l.reservedArchive = true ∧ l.activeLocation ≠ some .staging
    ∧ l.manifestLocation ≠ some .staging) ?_ fun _ => ?_
  · refine Code.Meets.when (fun hb => ?_) fun hb l h hl =>
      ⟨hl.2.1, hl.2.2.1, hl.2.2.2, hl.1 ▸ hb⟩
    refine Code.Meets.bind (R := fun _ l h => Staged repoRoot label initial
        { l with manifestLocation := some .archive } h ∧ l.reservedArchive = true
          ∧ l.activeLocation ≠ some .staging) ?_ fun _ =>
      Code.Meets.assign fun _ _ h => ⟨h.1, h.2.1, h.2.2, nofun⟩
    refine meets_effect (fun _ _ => ok_of_map) (fun _ _ h => h.2.1.toProgress)
      fun l h r t hl hrename => ?_
    obtain ⟨rfl, hstaged, hreserved, hactive⟩ := hl
    have hplaced := hstaged.placed
    have hsome := hplaced.manifest.moved (hb ▸ nofun)
    rw [hb] at hplaced
    exact ⟨⟨⟨hplaced.moveManifest nofun hsome (fun _ => hreserved) hrename, hstaged.summary⟩,
      hstaged.activeLeft, nofun⟩, hreserved, hactive⟩
  refine Code.Meets.bind (R := fun _ l h => Staged repoRoot label initial l h
    ∧ l.reservedArchive = true ∧ l.activeLocation ≠ some .staging
    ∧ l.manifestLocation ≠ some .staging) ?_ fun _ => ?_
  · refine meets_effect (fun _ _ => ok_of_map) (fun _ _ h => h.1.toProgress)
      fun l h r t hl hrename => ?_
    obtain ⟨hstaged, hreserved, hlocations⟩ := hl
    -- the summary is a file of the archive itself, at both of its places
    have hown : ∀ p ∈ [(siteNamed repoRoot label).staging ++ [summaryName],
        (siteNamed repoRoot label).archiveDir ++ [summaryName]],
        Own repoRoot label l.reservedArchive p :=
      List.forall_mem_cons.mpr ⟨own_summary (l := .staging) nofun,
        List.forall_mem_singleton.mpr (own_summary (l := .archive) fun _ => hreserved)⟩
    exact ⟨⟨⟨hstaged.placed.within (Within.rename hrename) hown, hstaged.summary⟩,
      hstaged.activeLeft, hstaged.manifestLeft⟩, hreserved, hlocations⟩
  · exact Code.Meets.assign fun l h hl =>
      ⟨⟨⟨hl.1.placed, fun _ => hl.2.1⟩, hl.1.activeLeft, hl.1.manifestLeft⟩, hl.2⟩

variable (repoRoot initial) in
/-- **Archived**: both are in a new archive directory, whole, and not where they were. -/
structure Archived (final : Tree) (archiveDir : Path) : Prop where
  new : initial.node archiveDir = none
  among : ∃ x, archiveDir = (createRealTestnetPaths repoRoot).archivesDir ++ [x]
  active : final.sub (archiveDir ++ [activeName])
    = initial.sub (createRealTestnetPaths repoRoot).activeDir
  activeGone : final.node (createRealTestnetPaths repoRoot).activeDir = none
  manifest : final.sub (archiveDir ++ [manifestName])
    = initial.sub (createRealTestnetPaths repoRoot).manifestPath
  manifestGone : final.node (createRealTestnetPaths repoRoot).manifestPath = none

/-- An item that has left the staging directory is archived, or was never there. -/
theorem Lies.archived {t : Tree} {item : Item} {site : Site} {location : Option Location}
    (h : Lies initial t item site true location) (hstaging : location ≠ some .staging)
    (hleft : location = none → initial.node item.original = none) :
    t.sub (site.archiveDir ++ [item.name]) = initial.sub item.original
      ∧ t.node item.original = none := by
  match location with
  | some .staging => exact absurd rfl hstaging
  | some .archive => exact ⟨h.here, h.elsewhere none nofun nofun⟩
  | none =>
      have hvacant := hleft rfl
      have hempty : t.node (site.archiveDir ++ [item.name]) = none :=
        h.elsewhere (some .archive) nofun fun _ => rfl
      constructor
      · rw [Tree.sub_of_none hempty, Tree.sub_of_none hvacant]
      · have hhere := congrFun h.here []
        rw [Tree.sub_nil, Tree.sub_nil, hvacant] at hhere
        exact hhere

/-- With everything moved on, the archive is complete. -/
theorem Staged.archived {l : Locals} {h : History} (hs : Staged repoRoot label initial l h)
    (hreserved : l.reservedArchive = true) (hactive : l.activeLocation ≠ some .staging)
    (hmanifest : l.manifestLocation ≠ some .staging) :
    Archived repoRoot initial h.disk (siteNamed repoRoot label).archiveDir := by
  have hplaced := hs.placed
  rw [hreserved] at hplaced
  obtain ⟨ha, hagone⟩ := hplaced.active.archived hactive hs.activeLeft
  obtain ⟨hm, hmgone⟩ := hplaced.manifest.archived hmanifest hs.manifestLeft
  exact ⟨hplaced.archiveNew rfl, ⟨label, rfl⟩, ha, hagone, hm, hmgone⟩

/-- **The body of the `try`**: it archives both, or throws where both can be found. -/
theorem meets_moveToArchive (hook : Hook (createRealTestnetPaths repoRoot)) (rt : Runtime)
    (hooked : Bool) {manifest : Option AccountManifest} (summary : ArchiveSummary)
    (hsome : manifest.isSome = true → (initial.node (manifestItem repoRoot).original).isSome)
    (hnone : manifest.isSome = false → initial.node (manifestItem repoRoot).original = none) :
    Code.Meets (fileEnv hook.act)
      (fun l h => Progress repoRoot label initial l h ∧ l = Locals.initial)
      (moveToArchive rt (createRealTestnetPaths repoRoot) (siteNamed repoRoot label) hooked manifest
        summary)
      (fun out l h => Progress repoRoot label initial l h
        ∧ out.1 = (siteNamed repoRoot label).archiveDir
        ∧ Archived repoRoot initial h.disk out.1)
      (Progress repoRoot label initial) := by
  refine Code.Meets.bind (meets_stageState hsome hnone) fun _ => ?_
  refine Code.Meets.bind (R := fun _ l h => Staged repoRoot label initial l h
    ∧ l.reservedArchive = false) ?_ fun summary => ?_
  · exact Code.Meets.of (fun _ _ _ _ h => h) fun _ _ h => h.1.toProgress
  refine Code.Meets.bind (R := fun _ l h => Staged repoRoot label initial l h
    ∧ l.reservedArchive = false) ?_ fun _ => ?_
  · -- the summary is written beside what was staged
    have hown : Own repoRoot label false ((siteNamed repoRoot label).staging ++ [summaryName]) :=
      own_summary (l := .staging) nofun
    exact (staged_steady.onWritePrivateJson hown rt _ _ _ (own_temporary _)).weaken
      (fun _ _ h => h) (fun _ _ _ h => h) fun _ _ h => h.1.toProgress
  refine Code.Meets.bind (R := fun _ l h => Staged repoRoot label initial l h
    ∧ l.reservedArchive = false) ?_ fun _ => ?_
  · exact Code.Meets.assign fun l h hl =>
      ⟨⟨⟨hl.1.placed, nofun⟩, hl.1.activeLeft, hl.1.manifestLeft⟩, hl.2⟩
  refine Code.Meets.bind (R := fun _ l h => Staged repoRoot label initial l h
    ∧ l.reservedArchive = false) ?_ fun _ => ?_
  · refine Code.Meets.when (fun _ => ?_) fun _ _ _ h => h
    refine meets_perform (fun _ _ h => h.1.toProgress) fun l h r t hl hact => ?_
    obtain ⟨hstaged, hreserved⟩ := hl
    obtain ⟨-, rfl⟩ := Prod.mk.inj (Except.ok.inj hact)
    -- what the caller adds is neither archived nor staged
    have hplaced := hstaged.placed
    rw [hreserved] at hplaced
    have hafter := hplaced.hook hook
    rw [← hreserved] at hafter
    exact ⟨⟨⟨hafter, hstaged.summary⟩, hstaged.activeLeft, hstaged.manifestLeft⟩, hreserved⟩
  refine Code.Meets.bind meets_reserveArchive fun _ => ?_
  refine Code.Meets.bind meets_settleArchive fun _ => ?_
  refine Code.Meets.bind (R := fun _ l h => Staged repoRoot label initial l h
    ∧ l.reservedArchive = true ∧ l.activeLocation ≠ some .staging
    ∧ l.manifestLocation ≠ some .staging) ?_ fun _ => ?_
  · refine meets_effect (fun _ _ => ok_of_map) (fun _ _ h => h.1.toProgress)
      fun l h r t hl hrmdir => ?_
    obtain ⟨hstaged, hlocations⟩ := hl
    have hplaced := hstaged.placed.directory (l := .staging) nofun (Tree.rmdir_eq_ok hrmdir).2.2
    exact ⟨⟨⟨hplaced, hstaged.summary⟩, hstaged.activeLeft, hstaged.manifestLeft⟩, hlocations⟩
  · exact Code.Meets.pure fun l h hl =>
      ⟨hl.1.toProgress, rfl, hl.1.archived hl.2.1 hl.2.2.1 hl.2.2.2⟩

end Moves

/-! ## The rollback -/

section Rollback

variable {repoRoot : Path} {label : String} {initial : Tree} {hook : Path → Tree → Tree}

/-- An item can always go back: it is somewhere, and its own place is free. -/
theorem Lies.renameBack {t : Tree} {item : Item} {reserved : Bool} {l : Location}
    (ho : item.Outside repoRoot)
    (h : Lies initial t item (siteNamed repoRoot label) reserved (some l))
    (hparent : t.isDirectoryAt item.original.dropLast) :
    ∃ t', t.rename (item.place (siteNamed repoRoot label) (some l))
      (item.place (siteNamed repoRoot label) none) = .ok t' := by
  have hapart : Apart (item.place (siteNamed repoRoot label) (some l))
      (item.place (siteNamed repoRoot label) none) := ho.places nofun
  refine Tree.rename_of_vacant ?_ hapart.1 hparent (h.elsewhere none nofun nofun)
  rw [← Tree.sub_nil, h.here, Tree.sub_nil]
  exact h.moved nofun

/-- A cleanup that succeeds. -/
theorem meets_caught_rename {σ : Type} {P E E' : σ → History → Prop} {src dst : Path}
    (hok : ∀ l h, P l h → ∃ t, h.disk.rename src dst = .ok t ∧ E l (h.push t)) :
    Code.Meets (fileEnv hook) P (Code.caught (cleanup (.rename src dst))) (fun _ => E) E' := by
  refine Code.Meets.caught (meets_cleanup ?_ ?_)
  · intro l h e hP hact
    obtain ⟨t, hrename, -⟩ := hok l h hP
    rw [FileOp.act, hrename] at hact
    cases hact
  · intro l h r t hP hact
    obtain ⟨t', hrename, hE⟩ := hok l h hP
    rw [FileOp.act, hrename] at hact
    obtain ⟨-, rfl⟩ := Prod.mk.inj (Except.ok.inj hact)
    exact hE

/-- **Going back**: whichever location an item has, it is where it belongs afterwards. -/
theorem meets_moveBack_manifest {l₀ : Locals} {reserved : Bool}
    {active manifest : Option Location} {E : Locals → History → Prop} :
    Code.Meets (fileEnv hook)
      (fun l h => l = l₀ ∧ Placed repoRoot label initial reserved active manifest h)
      (moveBack (siteNamed repoRoot label) manifest manifestName
        (createRealTestnetPaths repoRoot).manifestPath)
      (fun _ l h => l = l₀ ∧ Placed repoRoot label initial reserved active none h) E := by
  match manifest with
  | none => exact Code.Meets.pure fun _ _ h => h
  | some location =>
      refine meets_caught_rename fun l h hl => ?_
      obtain ⟨heq, hplaced⟩ := hl
      have hthere := hplaced.manifest.moved nofun
      obtain ⟨t, hrename⟩ := hplaced.manifest.renameBack outside_manifest (hplaced.deploy hthere)
      exact ⟨t, hrename, heq, hplaced.moveManifest nofun hthere nofun hrename⟩

/-- The active directory goes back to where it was. -/
theorem meets_moveBack_active {l₀ : Locals} {reserved : Bool}
    {active manifest : Option Location} {E : Locals → History → Prop} :
    Code.Meets (fileEnv hook)
      (fun l h => l = l₀ ∧ Placed repoRoot label initial reserved active manifest h)
      (moveBack (siteNamed repoRoot label) active activeName
        (createRealTestnetPaths repoRoot).activeDir)
      (fun _ l h => l = l₀ ∧ Placed repoRoot label initial reserved none manifest h) E := by
  match active with
  | none => exact Code.Meets.pure fun _ _ h => h
  | some location =>
      refine meets_caught_rename fun l h hl => ?_
      obtain ⟨heq, hplaced⟩ := hl
      have hthere := hplaced.active.moved nofun
      have hroot := hplaced.root
      rw [← active_dropLast] at hroot
      obtain ⟨t, hrename⟩ := hplaced.active.renameBack outside_active hroot
      exact ⟨t, hrename, heq, hplaced.moveActive nofun hthere nofun hrename⟩

/-- A cleanup in the call's own directories moves no item. -/
theorem meets_caught_own {l₀ : Locals} {reserved : Bool} {active manifest : Option Location}
    {op : FileOp} {E : Locals → History → Prop}
    (hop : ∀ t r t', op.act hook t = .ok (r, t') →
      ∀ q, Spared repoRoot label reserved q → t'.node q = t.node q) :
    Code.Meets (fileEnv hook)
      (fun l h => l = l₀ ∧ Placed repoRoot label initial reserved active manifest h)
      (Code.caught (cleanup op))
      (fun _ l h => l = l₀ ∧ Placed repoRoot label initial reserved active manifest h) E :=
  Code.Meets.caught (meets_cleanup (fun _ _ _ h _ => h) fun _ h r t hl hact =>
    ⟨hl.1, hl.2.own (hop h.disk r t hact)⟩)

theorem unlink_own {reserved : Bool} {p : Path} (hp : Own repoRoot label reserved p) (t : Tree)
    (r : Unit) (t' : Tree) (h : FileOp.act hook (.unlink p) t = .ok (r, t')) :
    ∀ q, Spared repoRoot label reserved q → t'.node q = t.node q := by
  intro q hq
  exact Within.unlink (ok_of_map h) q (List.forall_mem_singleton.mpr (hp.not_above hq))

theorem rmdir_own {reserved : Bool} {l : Location} (hl : l = .archive → reserved = true) (t : Tree)
    (r : Unit) (t' : Tree)
    (h : FileOp.act hook (.rmdir ((siteNamed repoRoot label).directory l)) t = .ok (r, t')) :
    ∀ q, Spared repoRoot label reserved q → t'.node q = t.node q := by
  intro q hq
  exact (Tree.rmdir_eq_ok (ok_of_map h)).2.2 q (hq.ne_directory hl)

/-- A reserved archive is removed again. -/
theorem meets_releaseArchive {l₀ : Locals} {reserved : Bool} {active manifest : Option Location}
    {E : Locals → History → Prop} :
    Code.Meets (fileEnv hook)
      (fun l h => l = l₀ ∧ Placed repoRoot label initial reserved active manifest h)
      (releaseArchive (siteNamed repoRoot label) reserved)
      (fun _ l h => l = l₀ ∧ Placed repoRoot label initial reserved active manifest h) E := by
  refine Code.Meets.ite (fun hreserved => ?_) fun _ => Code.Meets.pure fun _ _ h => h
  exact meets_caught_own (rmdir_own (l := .archive) fun _ => hreserved)

/-- **The rollback restores both**, from wherever the code threw. -/
theorem rollback_restores (e : ArchiveError) :
    Code.Meets (fileEnv hook) (Progress repoRoot label initial)
      (rollback (createRealTestnetPaths repoRoot) (siteNamed repoRoot label) e)
      (fun _ _ _ => False)
      (fun l h => Placed repoRoot label initial l.reservedArchive none none h) := by
  refine Code.Meets.bind (R := fun l₀ l h => (l = l₀ ∧ Placed repoRoot label initial
      l₀.reservedArchive l₀.activeLocation l₀.manifestLocation h)
      ∧ (l₀.summaryLocation = some .archive → l₀.reservedArchive = true))
    (Code.Meets.locals fun _ _ h => ⟨⟨rfl, h.placed⟩, h.summary⟩) fun l₀ => ?_
  refine Code.Meets.of_fact fun hsummary => ?_
  refine Code.Meets.bind meets_moveBack_manifest fun _ => ?_
  refine Code.Meets.bind meets_moveBack_active fun _ => ?_
  refine Code.Meets.bind (R := fun _ l h => l = l₀
    ∧ Placed repoRoot label initial l₀.reservedArchive none none h) ?_ fun _ => ?_
  · refine Code.Meets.when (fun _ => ?_) fun _ _ _ h => h
    refine Code.Meets.bind (meets_caught_own (unlink_own ?_)) fun _ => Code.Meets.pure fun _ _ h => h
    exact own_summary (l := .staging) nofun
  refine Code.Meets.bind (R := fun _ l h => l = l₀
    ∧ Placed repoRoot label initial l₀.reservedArchive none none h) ?_ fun _ => ?_
  · refine Code.Meets.when (fun harchive => ?_) fun _ _ _ h => h
    refine Code.Meets.bind (meets_caught_own (unlink_own ?_)) fun _ => Code.Meets.pure fun _ _ h => h
    exact own_summary (l := .archive) fun _ => hsummary harchive
  refine Code.Meets.bind (meets_caught_own (rmdir_own (l := .staging) nofun)) fun _ => ?_
  refine Code.Meets.bind meets_releaseArchive fun _ => ?_
  refine Code.Meets.ite (fun _ => ?_) fun _ => ?_
  · exact Code.Meets.throw fun l h hl => hl.1 ▸ hl.2
  · exact Code.Meets.throw fun l h hl => hl.1 ▸ hl.2

end Rollback

/-! ## Before anything moves -/

section Preparation

variable (repoRoot : Path) (initial : Tree)

/-- Only directories on the way to the archives were touched. -/
structure Prepared (l : Locals) (h : History) : Prop where
  locals : l = Locals.initial
  started : initial ∈ h.disks
  same : ∀ d ∈ h.disks, ∀ q, ¬ q <+: (createRealTestnetPaths repoRoot).archivesDir →
    d.node q = initial.node q

variable {repoRoot initial} {hook : Path → Tree → Tree} {l : Locals} {h : History}

theorem Prepared.push {t : Tree} (hp : Prepared repoRoot initial l h)
    (ht : ∀ q, ¬ q <+: (createRealTestnetPaths repoRoot).archivesDir →
      t.node q = h.disk.node q) : Prepared repoRoot initial l (h.push t) where
  locals := hp.locals
  started := List.mem_cons_of_mem _ hp.started
  same := List.forall_mem_cons.mpr
    ⟨fun q hq => (ht q hq).trans (hp.same h.disk List.mem_cons_self q hq), hp.same⟩

theorem prepared_lasting : Lasting (Prepared repoRoot initial) :=
  fun _ _ hp => hp.push fun _ _ => rfl

/-- Before the staging directory is made nothing has moved. -/
theorem Prepared.sub (hp : Prepared repoRoot initial l h) {d : Tree} (hd : d ∈ h.disks) {p : Path}
    (hpre : ¬ p <+: (createRealTestnetPaths repoRoot).archivesDir) : d.sub p = initial.sub p :=
  funext fun r => hp.same d hd (p ++ r) fun hr => hpre ((List.prefix_append ..).trans hr)

theorem not_prefix_archives (x : String) :
    ¬ (createRealTestnetPaths repoRoot).archivesDir ++ [x]
      <+: (createRealTestnetPaths repoRoot).archivesDir := by
  intro hpre
  have hle := hpre.length_le
  rw [List.length_append, List.length_singleton] at hle
  omega

/-- What belongs outside the archives is not on the way to them. -/
theorem Item.Outside.not_above {item : Item} (ho : item.Outside repoRoot) :
    ¬ item.original <+: (createRealTestnetPaths repoRoot).archivesDir :=
  fun hpre => (ho.apart "").1 (hpre.trans (List.prefix_append ..))

theorem Prepared.inOnePlace (hp : Prepared repoRoot initial l h) {item : Item}
    (ho : item.Outside repoRoot) (site : Site) :
    ∀ d ∈ h.disks, InOnePlace initial d item site := by
  intro d hd n hn
  have hsame := hp.sub hd ho.not_above
  refine ⟨none, hsame, fun p m hm heq => ?_⟩
  have hplace : d.node item.original = some n := by
    rw [← Tree.sub_nil, hsame, Tree.sub_nil, hn]
  exact d.inodes p item.original m n hm hplace heq

/-- A directory is made ready: nothing else changes, and no directory goes. -/
theorem meets_preparePrivateDirectory {p : Path} {dirs : List Path}
    (hp : p <+: (createRealTestnetPaths repoRoot).archivesDir) :
    Code.Meets (fileEnv hook)
      (fun l h => Prepared repoRoot initial l h ∧ ∀ q ∈ dirs, h.disk.isDirectoryAt q)
      (preparePrivateDirectory p)
      (fun _ l h => Prepared repoRoot initial l h ∧ ∀ q ∈ p :: dirs, h.disk.isDirectoryAt q)
      (Prepared repoRoot initial) := by
  have hlasting : Lasting fun l h => Prepared repoRoot initial l h
      ∧ ∀ q ∈ p :: dirs, h.disk.isDirectoryAt q :=
    fun l h hl => ⟨prepared_lasting l h hl.1, hl.2⟩
  refine Code.Meets.bind (R := fun _ l h => Prepared repoRoot initial l h
    ∧ ∀ q ∈ p :: dirs, h.disk.isDirectoryAt q) ?_ fun _ => ?_
  · refine meets_effect (fun _ _ => ok_of_map) (fun _ _ h => h.1) fun l h r t hl hmkdirs => ?_
    obtain ⟨hdir, hkeeps, hother⟩ := Tree.mkdirs_eq_ok hmkdirs
    refine ⟨hl.1.push fun q hq => hother q fun hpre => hq (hpre.trans hp), ?_⟩
    refine List.forall_mem_cons.mpr ⟨hdir, fun q hq => ?_⟩
    have hq := hl.2 q hq
    exact (Tree.isDirectoryAt_congr (hkeeps q (Tree.isSome_of_isDirectoryAt hq))).trans hq
  refine Code.Meets.bind ((meets_rejectSymlink hlasting p).weaken (fun _ _ h => h)
    (fun _ _ _ h => h) fun _ _ h => h.1) fun _ => ?_
  refine meets_effect (fun _ _ => ok_of_map) (fun _ _ h => h.1) fun l h r t hl hchmod => ?_
  obtain ⟨hsame, hother⟩ := Tree.alter_eq_ok hchmod
  refine ⟨hl.1.push fun q hq => hother q fun heq => hq (heq ▸ hp), fun q hq => ?_⟩
  by_cases hqp : q = p
  · rw [hqp] at hq ⊢
    exact hsame.trans (hl.2 p hq)
  · exact (Tree.isDirectoryAt_congr (hother q hqp)).trans (hl.2 q hq)

/-- An item is where it belongs when the staging directory has been made. -/
theorem Prepared.lies {label : String} {mode : Nat} {t : Tree} {item : Item}
    (hp : Prepared repoRoot initial l h) (ho : item.Outside repoRoot)
    (hmkdir : h.disk.mkdir mode (siteNamed repoRoot label).staging = .ok t) :
    Lies initial t item (siteNamed repoRoot label) false none where
  here := by
    obtain ⟨-, -, hother⟩ := Tree.make_eq_ok hmkdir
    have hsub : t.sub item.original = h.disk.sub item.original := by
      funext r
      exact hother _ fun heq => (ho.directory label .staging).symm.not_above r
        (heq ▸ List.prefix_refl _)
    exact hsub.trans (hp.sub List.mem_cons_self ho.not_above)
  elsewhere other hne harchive := by
    obtain ⟨hvacant, -, hother⟩ := Tree.make_eq_ok hmkdir
    match other with
    | none => exact absurd rfl hne
    | some .archive => exact absurd (harchive rfl) nofun
    | some .staging =>
        have hbelow : (siteNamed repoRoot label).staging ++ [item.name]
            ≠ (siteNamed repoRoot label).staging := by
          intro heq
          have hlen := congrArg List.length heq
          rw [List.length_append, List.length_singleton] at hlen
          omega
        exact (hother _ hbelow).trans (Tree.node_append_of_none hvacant _)
  moved := nofun
  reserved := nofun

/-- **The staging directory is made**, and both are where they belong. -/
theorem Prepared.placed {label : String} {mode : Nat} {t : Tree}
    (hp : Prepared repoRoot initial l h)
    (hroot : h.disk.isDirectoryAt (createRealTestnetPaths repoRoot).rootDir)
    (hmkdir : h.disk.mkdir mode (siteNamed repoRoot label).staging = .ok t) :
    Placed repoRoot label initial false none none (h.push t) := by
  obtain ⟨hvacant, -, hother⟩ := Tree.make_eq_ok hmkdir
  have hkeeps : ∀ {q}, Spared repoRoot label false q → t.node q = h.disk.node q :=
    fun hq => hother _ (hq.ne_directory (l := .staging) nofun)
  have hparent := fun {item : Item} (ho : item.Outside repoRoot) =>
    Tree.isDirectoryAt_congr (hkeeps (spared_parent ho))
  refine ⟨hp.lies outside_active hmkdir, hp.lies outside_manifest hmkdir, ?_, fun hsome => ?_,
    List.mem_cons_of_mem _ hp.started, ?_, nofun, ?_, fun d hd => ?_⟩
  · rw [← active_dropLast] at hroot ⊢
    exact (hparent outside_active).trans hroot
  · -- the manifest is below a directory, which is not on the way to the archives
    refine (hparent outside_manifest).trans ?_
    have hpath : (manifestItem repoRoot).original = repoRoot ++ ["deploy"]
        ++ ["testnet-account.json"] := by
      simp [manifestItem, createRealTestnetPaths]
    have hapart : Apart (repoRoot ++ ["deploy"])
        (createRealTestnetPaths repoRoot).archivesDir := by
      simpa [createRealTestnetPaths] using apart_append (p := repoRoot)
        (show "deploy" ≠ "demo" by decide) [] [".local", "real-testnet", "archives"]
    have hsome : (initial.node (manifestItem repoRoot).original).isSome := hsome
    rw [hpath] at hsome
    have hdir : initial.isDirectoryAt (repoRoot ++ ["deploy"]) := initial.parents _ _ hsome
    rw [hpath, List.dropLast_concat]
    exact (Tree.isDirectoryAt_congr (hp.same h.disk List.mem_cons_self _ hapart.1)).trans hdir
  · exact (hp.same h.disk List.mem_cons_self _ (not_prefix_archives _)).symm.trans hvacant
  · have hsame : ∀ d ∈ (h.push t).disks, ∀ x, Foreign label false x →
        d.sub ((createRealTestnetPaths repoRoot).archivesDir ++ [x])
          = initial.sub ((createRealTestnetPaths repoRoot).archivesDir ++ [x]) := by
      intro d hd x hx
      rcases List.mem_cons.mp hd with rfl | hd
      · refine Eq.trans ?_ (hp.sub List.mem_cons_self (not_prefix_archives x))
        exact funext fun r => hkeeps (hx.spared r)
      · exact hp.sub hd (not_prefix_archives x)
    exact fun d hd x hx _ => (hsame _ List.mem_cons_self x hx).trans (hsame d hd x hx).symm
  · exact ⟨hp.inOnePlace outside_active _ d hd, hp.inOnePlace outside_manifest _ d hd⟩

end Preparation

/-! ## The whole call -/

section Whole

variable (repoRoot : Path) (initial : Tree)

/-- **Restored**: both are where they were, as they were. -/
structure Restored (final : Tree) : Prop where
  active : final.sub (createRealTestnetPaths repoRoot).activeDir
    = initial.sub (createRealTestnetPaths repoRoot).activeDir
  manifest : final.sub (createRealTestnetPaths repoRoot).manifestPath
    = initial.sub (createRealTestnetPaths repoRoot).manifestPath

/-- **Nothing is lost**: every archive that was there is as it was, those that came while the call
    ran are as they were seen, and every disk of the run has each item in one place. -/
structure Intact (label : String) (reserved : Bool) (h : History) : Prop where
  archives : ∀ x, (initial.node ((createRealTestnetPaths repoRoot).archivesDir ++ [x])).isSome →
    h.disk.sub ((createRealTestnetPaths repoRoot).archivesDir ++ [x])
      = initial.sub ((createRealTestnetPaths repoRoot).archivesDir ++ [x])
  later : ∀ d ∈ h.disks, ∀ x, Foreign label reserved x →
    (d.node ((createRealTestnetPaths repoRoot).archivesDir ++ [x])).isSome →
    h.disk.sub ((createRealTestnetPaths repoRoot).archivesDir ++ [x])
      = d.sub ((createRealTestnetPaths repoRoot).archivesDir ++ [x])
  active : ∀ d ∈ h.disks, InOnePlace initial d (activeItem repoRoot) (siteNamed repoRoot label)
  manifest : ∀ d ∈ h.disks, InOnePlace initial d (manifestItem repoRoot) (siteNamed repoRoot label)

variable {repoRoot initial}

/-- All that is not the code's own is as it was. -/
theorem Placed.intact {label : String} {reserved : Bool} {active manifest : Option Location}
    {h : History} (hp : Placed repoRoot label initial reserved active manifest h) :
    Intact repoRoot initial label reserved h where
  archives x hsome := by
    refine hp.archives initial hp.started x ⟨?_, ?_⟩ hsome
    · rintro rfl
      exact Option.not_isSome_iff_eq_none.mpr hp.stagingNew hsome
    · rintro rfl
      cases hr : reserved with
      | false => rfl
      | true => exact absurd hsome (Option.not_isSome_iff_eq_none.mpr (hp.archiveNew hr))
  later := hp.archives
  active d hd := (hp.inOnePlace d hd).1
  manifest d hd := (hp.inOnePlace d hd).2

theorem Prepared.intact {l : Locals} {h : History} (hp : Prepared repoRoot initial l h)
    (label : String) (reserved : Bool) : Intact repoRoot initial label reserved h where
  archives x _ := hp.sub List.mem_cons_self (not_prefix_archives x)
  later _ hd x _ _ :=
    (hp.sub List.mem_cons_self (not_prefix_archives x)).trans
      (hp.sub hd (not_prefix_archives x)).symm
  active := hp.inOnePlace outside_active _
  manifest := hp.inOnePlace outside_manifest _

/-- What a call leaves when it throws. -/
def Failed (repoRoot : Path) (initial : Tree) (l : Locals) (h : History) : Prop :=
  Restored repoRoot initial h.disk
    ∧ ∃ label, Intact repoRoot initial label l.reservedArchive h

theorem Prepared.failed {l : Locals} {h : History} (hp : Prepared repoRoot initial l h) :
    Failed repoRoot initial l h :=
  ⟨⟨hp.sub List.mem_cons_self outside_active.not_above,
    hp.sub List.mem_cons_self outside_manifest.not_above⟩, "", hp.intact _ _⟩

/-- With both items back the archive has failed cleanly. -/
theorem Placed.failed {label : String} {l : Locals} {h : History}
    (hp : Placed repoRoot label initial l.reservedArchive none none h) :
    Failed repoRoot initial l h :=
  ⟨⟨hp.active.here, hp.manifest.here⟩, label, hp.intact⟩

/-- What a call leaves when it returns. -/
def Succeeded (repoRoot : Path) (initial : Tree) (archiveDir : Path) (l : Locals) (h : History) :
    Prop :=
  Archived repoRoot initial h.disk archiveDir
    ∧ ∃ label, archiveDir = (siteNamed repoRoot label).archiveDir
      ∧ Intact repoRoot initial label l.reservedArchive h

variable {hook : Hook (createRealTestnetPaths repoRoot)}

/-- From the check of the staging directory on. -/
theorem meets_archive (rt : Runtime) (hooked : Bool) (now : String) (disk : Disk)
    (run : Option RunDocument) {manifest : Option AccountManifest}
    (hsome : manifest.isSome = true → (initial.node (manifestItem repoRoot).original).isSome)
    (hnone : manifest.isSome = false → initial.node (manifestItem repoRoot).original = none)
    (label : String) :
    Code.Meets (fileEnv hook.act)
      (fun l h => Prepared repoRoot initial l h
        ∧ h.disk.isDirectoryAt (createRealTestnetPaths repoRoot).rootDir)
      (do
        whenExists (siteNamed repoRoot label).staging (Code.throw (.message
          ("Archive already exists at " ++ pathText (siteNamed repoRoot label).archiveDir)))
        perform (.mkdir 0o700 (siteNamed repoRoot label).staging)
        Code.tryCatch
          (moveToArchive rt (createRealTestnetPaths repoRoot) (siteNamed repoRoot label) hooked
            manifest (archiveSummary now disk run manifest))
          (rollback (createRealTestnetPaths repoRoot) (siteNamed repoRoot label)))
      (fun out l h => Succeeded repoRoot initial out.1 l h) (Failed repoRoot initial) := by
  -- nothing below removes the root directory
  have hlasting : Lasting fun l h => Prepared repoRoot initial l h
      ∧ h.disk.isDirectoryAt (createRealTestnetPaths repoRoot).rootDir :=
    fun l h hl => ⟨prepared_lasting l h hl.1, hl.2⟩
  refine Code.Meets.bind (R := fun _ l h => Prepared repoRoot initial l h
    ∧ h.disk.isDirectoryAt (createRealTestnetPaths repoRoot).rootDir) ?_ fun _ => ?_
  · refine (meets_whenExists hlasting _ ?_ fun _ _ h _ => h).weaken (fun _ _ h => h)
      (fun _ _ _ h => h) fun _ _ h => h.1.failed
    exact Code.Meets.throw fun _ _ h => h.1
  refine Code.Meets.bind (R := fun _ l h => Progress repoRoot label initial l h
    ∧ l = Locals.initial) ?_ fun _ => ?_
  · refine meets_effect (fun _ _ => ok_of_map) (fun _ _ h => h.1.failed) fun l h r t hl hmkdir => ?_
    have hplaced := hl.1.placed hl.2 hmkdir
    -- the staging directory is the first thing the archive makes
    rw [hl.1.locals]
    exact ⟨⟨hplaced, nofun⟩, rfl⟩
  refine Code.Meets.tryCatch (R := Progress repoRoot label initial) ?_ fun e => ?_
  · refine (meets_moveToArchive hook rt hooked _ hsome hnone).weaken (fun _ _ h => h) ?_
      fun _ _ h => h
    rintro out l h ⟨hprogress, hdir, harchived⟩
    exact ⟨harchived, label, hdir, hprogress.placed.intact⟩
  · exact (rollback_restores e).weaken (fun _ _ h => h) (fun _ _ _ h => absurd h id)
      fun _ _ h => h.failed

/-- **What a call leaves**, whichever of its operations fail. -/
theorem meets_archiveRealTestnetState (rt : Runtime) (now : Option String) (hooked : Bool) :
    Code.Meets (fileEnv hook.act) (Prepared repoRoot initial)
      (archiveRealTestnetState rt (createRealTestnetPaths repoRoot) now hooked)
      (fun out l h => Succeeded repoRoot initial out.1 l h) (Failed repoRoot initial) := by
  have hread : ∀ {α : Type} {c : Task Locals α},
      Code.Meets (fileEnv hook.act) (Prepared repoRoot initial) c
        (fun _ => Prepared repoRoot initial) (Prepared repoRoot initial) →
      Code.Meets (fileEnv hook.act) (Prepared repoRoot initial) c
        (fun _ => Prepared repoRoot initial) (Failed repoRoot initial) :=
    fun hc => hc.weaken (fun _ _ h => h) (fun _ _ _ h => h) fun _ _ h => h.failed
  refine Code.Meets.bind (hread (meets_loadDiskState prepared_lasting rt _)) fun disk => ?_
  refine Code.Meets.bind (hread (meets_loadRun prepared_lasting rt _)) fun run => ?_
  -- what was found of the manifest is so of the disk the call began with
  refine Code.Meets.bind (R := fun m l h => Prepared repoRoot initial l h
      ∧ (m.isSome = true → (initial.node (manifestItem repoRoot).original).isSome)
      ∧ (m.isSome = false → initial.node (manifestItem repoRoot).original = none)) ?_
    fun manifest => ?_
  · refine (meets_loadOptionalAccountManifest prepared_lasting rt _).weaken (fun _ _ h => h) ?_
      fun _ _ h => h.failed
    rintro m l h ⟨hprepared, hfound, hmissing⟩
    have hsame : h.disk.node (manifestItem repoRoot).original
        = initial.node (manifestItem repoRoot).original :=
      hprepared.same h.disk List.mem_cons_self _ outside_manifest.not_above
    rw [← hsame]
    exact ⟨hprepared, hfound, hmissing⟩
  refine Code.Meets.of_fact fun hmanifest => ?_
  refine Code.Meets.bind (R := fun _ => Prepared repoRoot initial) ?_ fun _ => ?_
  · exact Code.Meets.of (fun _ _ _ _ h => h) fun _ _ h => h.failed
  refine Code.Meets.bind (R := fun _ l h => Prepared repoRoot initial l h
      ∧ ∀ q ∈ [(createRealTestnetPaths repoRoot).rootDir], h.disk.isDirectoryAt q) ?_ fun _ => ?_
  · refine (meets_preparePrivateDirectory (List.prefix_append ..)).weaken ?_ (fun _ _ _ h => h)
      fun _ _ h => h.failed
    exact fun _ _ h => ⟨h, nofun⟩
  refine Code.Meets.bind (R := fun _ l h => Prepared repoRoot initial l h
      ∧ h.disk.isDirectoryAt (createRealTestnetPaths repoRoot).rootDir) ?_ fun _ => ?_
  · refine (meets_preparePrivateDirectory (List.prefix_refl _)).weaken (fun _ _ h => h) ?_
      fun _ _ h => h.failed
    exact fun _ _ _ h => ⟨h.1, h.2 _ (List.mem_cons_of_mem _ List.mem_cons_self)⟩
  refine Code.Meets.bind (R := fun _ l h => Prepared repoRoot initial l h
      ∧ h.disk.isDirectoryAt (createRealTestnetPaths repoRoot).rootDir) ?_ fun now => ?_
  · exact Code.Meets.of (fun _ _ _ _ h => h) fun _ _ h => h.1.failed
  rw [siteOf_eq]
  exact meets_archive rt hooked now disk run hmanifest.1 hmanifest.2 _

/-- A call on a disk, in which the `n`-th operation is made to fail if `fails n`. -/
def runArchive (rt : Runtime) (repoRoot : Path) (now : Option String)
    (hook : Hook (createRealTestnetPaths repoRoot)) (hooked : Bool) (fails : Nat → Bool)
    (initial : Tree) : (Except ArchiveError (Path × ArchiveSummary) × Locals) × History :=
  run (fileEnv hook.act) fails 0 ⟨initial, []⟩
    (archiveRealTestnetState rt (createRealTestnetPaths repoRoot) now hooked Locals.initial)

/-- **Archiving is all or nothing.**  On every disk, and whichever operations fail: a call that
    returns leaves the active directory and the manifest, whole, in a new archive and nowhere
    else; a call that throws leaves both where they were, as they were.  No archive that was
    there is touched, nor one that appears before the call reserves its own, and at no moment of
    the run is either of the two anywhere but in one place: its own, staging, or the archive. -/
theorem archive_all_or_nothing (rt : Runtime) (repoRoot : Path) (now : Option String)
    (hook : Hook (createRealTestnetPaths repoRoot)) (hooked : Bool) (fails : Nat → Bool)
    (initial : Tree) :
    (∀ archiveDir summary,
      (runArchive rt repoRoot now hook hooked fails initial).1.1 = .ok (archiveDir, summary) →
      Archived repoRoot initial
        (runArchive rt repoRoot now hook hooked fails initial).2.disk archiveDir)
    ∧ (∀ e, (runArchive rt repoRoot now hook hooked fails initial).1.1 = .error e →
      Restored repoRoot initial (runArchive rt repoRoot now hook hooked fails initial).2.disk)
    ∧ ∃ label,
      (∀ archiveDir summary,
        (runArchive rt repoRoot now hook hooked fails initial).1.1 = .ok (archiveDir, summary) →
        archiveDir = (siteNamed repoRoot label).archiveDir)
      ∧ Intact repoRoot initial label
        (runArchive rt repoRoot now hook hooked fails initial).1.2.reservedArchive
        (runArchive rt repoRoot now hook hooked fails initial).2 := by
  have hbegin : Prepared repoRoot initial Locals.initial ⟨initial, []⟩ := by
    refine ⟨rfl, List.mem_cons_self, ?_⟩
    exact List.forall_mem_singleton.mpr fun _ _ => rfl
  have hmeets : Code.Meets (fileEnv hook.act) (Prepared repoRoot initial)
      (archiveRealTestnetState rt (createRealTestnetPaths repoRoot) now hooked)
      (fun out l h => Succeeded repoRoot initial out.1 l h) (Failed repoRoot initial) :=
    meets_archiveRealTestnetState rt now hooked
  have hend := (hmeets Locals.initial _ hbegin).run fails (n := 0)
  -- the result alone decides which of the two outcomes the run ends in
  generalize hout : runArchive rt repoRoot now hook hooked fails initial = out
  rw [runArchive] at hout
  rw [hout] at hend
  obtain ⟨⟨result, l⟩, h⟩ := out
  cases result with
  | ok value =>
      obtain ⟨harchived, label, hdir, hintact⟩ := hend
      refine ⟨fun _ _ heq => ?_, nofun, label, fun _ _ heq => ?_, hintact⟩
      · cases heq
        exact harchived
      · cases heq
        exact hdir
  | error e =>
      obtain ⟨hrestored, label, hintact⟩ := hend
      exact ⟨nofun, fun _ _ => hrestored, label, nofun, hintact⟩

end Whole

/-! ## A disk with an orphaned account -/

/-- A hash of one digit. -/
def sampleHash (digit : Char) : String := "0x" ++ String.ofList (List.replicate 64 digit)

/-- An outpoint of the sample manifest. -/
def sampleOutPoint : Json :=
  .object [("tx_hash", .string (sampleHash 'b')), ("index", .number 0)]

/-- A manifest that its schema accepts. -/
def sampleManifest : Json :=
  .object [("schema_version", .number 1), ("network", .string "testnet"),
    ("account_id", .string (sampleHash 'a')),
    ("account_lock", .object [("code_hash", .string (sampleHash 'c')),
      ("hash_type", .string "data2"),
      ("args", .string ("0x01" ++ String.ofList (List.replicate 64 'a')))]),
    ("type_id_args", .string (sampleHash 'd')), ("state_out_point", sampleOutPoint),
    ("asset_out_point", sampleOutPoint), ("state_bytes", .number 177)]

/-- The manifest is the only text that is parsed as one; the summary is parsed as written. -/
def sampleRuntime : Runtime where
  parse text := some (if text = "manifest" then sampleManifest else
    ArchiveSummary.value ⟨"2026-08-26T01:02:03.000Z", some (sampleHash 'a'), some (sampleHash 'b'),
      false, .orphanedAccount⟩)
  stringify _ := "summary"
  datetime _ := true
  datetimeOffset _ := true
  unique := "1"

/-- A caller that does nothing before the archive is published. -/
def sampleHook : Hook (createRealTestnetPaths []) where
  act _ t := t
  adds _ _ _ _ := rfl
  active _ _ := rfl
  manifest _ _ := rfl
  staging _ _ := rfl
  archives _ _ _ _ := rfl

/-- A manifest, and nothing else. -/
def sampleDisk : Except FsError Tree := do
  let t ← Tree.root.mkdir 0o755 ["deploy"]
  let t ← t.create 0o644 ["deploy", manifestName]
  t.write "manifest" ["deploy", manifestName]

/-- Whether a call on the sample returns. -/
def sampleReturns (fails : Nat → Bool) : Bool :=
  sampleDisk.toOption.any fun t =>
    (runArchive sampleRuntime [] (some "2026-08-26T01:02:03.000Z") sampleHook true fails
      t).1.1.isOk

-- the removal of the staging directory, the last operation, is number 36: the call returns if
-- only a later one would fail
set_option maxRecDepth 10000 in
example : sampleReturns (· == 37) = true := by decide +kernel

end CkbArchive
