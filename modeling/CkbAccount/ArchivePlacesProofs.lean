import CkbAccount.TestnetStateProofs

/-! # Where archived things are

    The active directory and the manifest are each in one of three places: where they belong,
    in the staging directory of a call, or in its archive.

    * `Lies`: an item is at one of its places, and its others are empty;
    * `Placed`: both are where the variables of the call say, and no archive of another was
      touched;
    * `Placed.moveActive`, `Placed.moveManifest`, `Placed.own`, `Placed.reserve`, `Placed.hook`:
      what each kind of step makes of it. -/

namespace CkbArchive

open FaultRun FileTree CkbSchemas

/-! ## Where things are -/

section Places

variable (repoRoot : Path) (label : String)

/-- The directories of a call whose archive is named `label`. -/
def siteNamed : Site where
  staging := (createRealTestnetPaths repoRoot).archivesDir ++ [label ++ ".staging"]
  archiveDir := (createRealTestnetPaths repoRoot).archivesDir ++ [label]

/-- Something that is archived: where it belongs, and its name elsewhere. -/
structure Item where
  original : Path
  name : String

/-- The active directory, which an archive moves. -/
def activeItem : Item := ⟨(createRealTestnetPaths repoRoot).activeDir, activeName⟩

/-- The manifest, which an archive moves. -/
def manifestItem : Item := ⟨(createRealTestnetPaths repoRoot).manifestPath, manifestName⟩

/-- Where an item is at a location; at none it is where it belongs. -/
def Item.place (item : Item) (site : Site) : Option Location → Path
  | none => item.original
  | some l => site.directory l ++ [item.name]

variable {repoRoot label}

/-- A site is named by its stamp and its suffix. -/
theorem siteOf_eq (now : String) (manifest : Option AccountManifest) :
    siteOf (createRealTestnetPaths repoRoot) now manifest
      = siteNamed repoRoot (stampOf now ++ "-" ++ suffixOf manifest) := by
  simp only [siteOf, siteNamed, extended, List.dropLast_concat, List.getLastD_concat]

/-- The staging directory has a name of its own. -/
theorem staging_ne : label ++ ".staging" ≠ label := by
  intro h
  have hlen := congrArg String.length h
  have height : ".staging".length = 8 := rfl
  rw [String.length_append] at hlen
  omega

theorem apart_active_manifest :
    Apart (createRealTestnetPaths repoRoot).activeDir
      (createRealTestnetPaths repoRoot).manifestPath := by
  simpa [createRealTestnetPaths] using apart_append (p := repoRoot)
    (show "demo" ≠ "deploy" by decide) [".local", "real-testnet", "active"]
    ["testnet-account.json"]

theorem apart_active_archive (x : String) :
    Apart (createRealTestnetPaths repoRoot).activeDir
      ((createRealTestnetPaths repoRoot).archivesDir ++ [x]) := by
  simpa [createRealTestnetPaths] using
    apart_append (p := repoRoot ++ ["demo", ".local", "real-testnet"])
      (show "active" ≠ "archives" by decide) [] [x]

theorem apart_manifest_archive (x : String) :
    Apart (createRealTestnetPaths repoRoot).manifestPath
      ((createRealTestnetPaths repoRoot).archivesDir ++ [x]) := by
  simpa [createRealTestnetPaths] using apart_append (p := repoRoot)
    (show "deploy" ≠ "demo" by decide) ["testnet-account.json"]
    [".local", "real-testnet", "archives", x]

/-- The directories of a call are apart from each other and from those of any other name. -/
theorem apart_archives {p : Path} {x y : String} (h : x ≠ y) : Apart (p ++ [x]) (p ++ [y]) :=
  apart_append h [] []

/-- An item belongs outside the archives. -/
structure Item.Outside (repoRoot : Path) (item : Item) : Prop where
  apart : ∀ x, Apart item.original ((createRealTestnetPaths repoRoot).archivesDir ++ [x])

theorem outside_active : (activeItem repoRoot).Outside repoRoot := ⟨apart_active_archive⟩

theorem outside_manifest : (manifestItem repoRoot).Outside repoRoot := ⟨apart_manifest_archive⟩

/-- A location is a directory among the archives. -/
theorem directory_eq (repoRoot : Path) (label : String) (l : Location) :
    ∃ x, (siteNamed repoRoot label).directory l
      = (createRealTestnetPaths repoRoot).archivesDir ++ [x] := by
  cases l with
  | staging => exact ⟨_, rfl⟩
  | archive => exact ⟨_, rfl⟩

/-- The two directories of a site are apart. -/
theorem apart_directories {l l' : Location} (h : l ≠ l') :
    Apart ((siteNamed repoRoot label).directory l) ((siteNamed repoRoot label).directory l') := by
  cases l with
  | staging =>
      cases l' with
      | staging => exact absurd rfl h
      | archive => exact apart_archives staging_ne
  | archive =>
      cases l' with
      | staging => exact apart_archives staging_ne.symm
      | archive => exact absurd rfl h

/-- **The places of an item are apart.** -/
theorem Item.Outside.places {item : Item} (ho : item.Outside repoRoot)
    {l l' : Option Location} (h : l ≠ l') :
    Apart (item.place (siteNamed repoRoot label) l) (item.place (siteNamed repoRoot label) l') := by
  have hone : ∀ l, Apart item.original ((siteNamed repoRoot label).directory l ++ [item.name]) := by
    intro l
    obtain ⟨x, hx⟩ := directory_eq repoRoot label l
    rw [hx]
    simpa using (ho.apart x).append [] [item.name]
  cases l with
  | none =>
      cases l' with
      | none => exact absurd rfl h
      | some l' => exact hone l'
  | some l =>
      cases l' with
      | none => exact (hone l).symm
      | some l' => exact (apart_directories fun heq => h (congrArg some heq)).append _ _

end Places

/-! ## One item -/

section Items

variable {repoRoot : Path} {label : String} {initial t t' : Tree} {item : Item}
  {reserved : Bool} {location : Option Location}

/-- **In one place**: what stood where the item belongs is at one of its places, whole, and no
    other path of the disk has it. -/
def InOnePlace (initial t : Tree) (item : Item) (site : Site) : Prop :=
  ∀ n, initial.node item.original = some n →
    ∃ l, t.sub (item.place site l) = initial.sub item.original
      ∧ ∀ p m, t.node p = some m → m.inode = n.inode → p = item.place site l

/-- The item is at the location, and its other places are empty.  In an archive directory that
    was not made here nothing is its place. -/
structure Lies (initial t : Tree) (item : Item) (site : Site) (reserved : Bool)
    (location : Option Location) : Prop where
  here : t.sub (item.place site location) = initial.sub item.original
  elsewhere : ∀ other, other ≠ location → (other = some .archive → reserved = true) →
    t.node (item.place site other) = none
  moved : location ≠ none → (initial.node item.original).isSome
  reserved : location = some .archive → reserved = true

/-- No identity is at two paths, so what is whole at one is nowhere else. -/
theorem Lies.inOnePlace {site : Site} (h : Lies initial t item site reserved location) :
    InOnePlace initial t item site := by
  intro n hn
  refine ⟨location, h.here, fun p m hm heq => ?_⟩
  have hplace : t.node (item.place site location) = some n := by
    rw [← Tree.sub_nil, h.here, Tree.sub_nil, hn]
  exact t.inodes p _ m n hm hplace heq

/-- **A move takes the item from one location to another.** -/
theorem Lies.rename (ho : item.Outside repoRoot) {other : Option Location}
    (h : Lies initial t item (siteNamed repoRoot label) reserved location)
    (hne : location ≠ other) (hsome : (initial.node item.original).isSome)
    (hreserved : other = some .archive → reserved = true)
    (hrename : t.rename (item.place (siteNamed repoRoot label) location)
      (item.place (siteNamed repoRoot label) other) = .ok t') :
    Lies initial t' item (siteNamed repoRoot label) reserved other := by
  have hapart : ∀ {l l' : Option Location}, l ≠ l' →
      Apart (item.place (siteNamed repoRoot label) l) (item.place (siteNamed repoRoot label) l') :=
    fun hll => ho.places hll
  have hpath : item.place (siteNamed repoRoot label) location
      ≠ item.place (siteNamed repoRoot label) other :=
    fun heq => (hapart hne).1 (heq ▸ List.prefix_refl _)
  obtain ⟨hto, hfrom, hkeeps⟩ := Tree.rename_eq_ok hpath hrename
  refine ⟨hto.trans h.here, fun third hthird harchive => ?_, fun _ => hsome, hreserved⟩
  by_cases hloc : third = location
  · rw [hloc]
    exact hfrom _ (List.prefix_refl _) (hapart hne.symm).1
  · rw [hkeeps _ (hapart (Ne.symm hloc)).1 (hapart (Ne.symm hthird)).1]
    exact h.elsewhere third hloc harchive

/-- What leaves the places of an item as they are leaves it where it is. -/
theorem Lies.frame {site : Site} (h : Lies initial t item site reserved location)
    (hsub : ∀ l, (l = some .archive → reserved = true) →
      t'.sub (item.place site l) = t.sub (item.place site l)) :
    Lies initial t' item site reserved location where
  here := (hsub location h.reserved).trans h.here
  elsewhere other hne harchive := by
    rw [← Tree.sub_nil, hsub other harchive, Tree.sub_nil]
    exact h.elsewhere other hne harchive
  moved := h.moved
  reserved := h.reserved

end Items

/-! ## Both items, at every point of a call -/

section Points

/-- Every disk there was, and the one there is. -/
def History.disks (h : History) : List Tree := h.disk :: h.past

variable (repoRoot : Path) (label : String) (initial : Tree)

/-- A directory among the archives that is not the call's own. -/
def Foreign (reserved : Bool) (x : String) : Prop :=
  x ≠ label ++ ".staging" ∧ (x = label → reserved = false)

/-- **What holds at every point of a call**: each item is where the variables say; the
    directories they came from are there; archives that are not the call's own are as they ever
    were; and in no disk so far was an item lost. -/
structure Placed (reserved : Bool) (active manifest : Option Location) (h : History) : Prop where
  active : Lies initial h.disk (activeItem repoRoot) (siteNamed repoRoot label) reserved active
  manifest : Lies initial h.disk (manifestItem repoRoot) (siteNamed repoRoot label) reserved
    manifest
  root : h.disk.isDirectoryAt (createRealTestnetPaths repoRoot).rootDir
  deploy : (initial.node (createRealTestnetPaths repoRoot).manifestPath).isSome →
    h.disk.isDirectoryAt (createRealTestnetPaths repoRoot).manifestPath.dropLast
  started : initial ∈ h.disks
  stagingNew : initial.node (siteNamed repoRoot label).staging = none
  archiveNew : reserved = true → initial.node (siteNamed repoRoot label).archiveDir = none
  archives : ∀ d ∈ h.disks, ∀ x, Foreign label reserved x →
    (d.node ((createRealTestnetPaths repoRoot).archivesDir ++ [x])).isSome →
    h.disk.sub ((createRealTestnetPaths repoRoot).archivesDir ++ [x])
      = d.sub ((createRealTestnetPaths repoRoot).archivesDir ++ [x])
  kept : ∀ d ∈ h.past, InOnePlace initial d (activeItem repoRoot) (siteNamed repoRoot label)
    ∧ InOnePlace initial d (manifestItem repoRoot) (siteNamed repoRoot label)

variable {repoRoot label initial} {reserved : Bool} {active manifest : Option Location}
  {h : History} {t : Tree}

/-- **Every state of the disk has each item in one place.** -/
theorem Placed.inOnePlace (hp : Placed repoRoot label initial reserved active manifest h) :
    ∀ d ∈ h.disks, InOnePlace initial d (activeItem repoRoot) (siteNamed repoRoot label)
      ∧ InOnePlace initial d (manifestItem repoRoot) (siteNamed repoRoot label) :=
  List.forall_mem_cons.mpr ⟨⟨hp.active.inOnePlace, hp.manifest.inOnePlace⟩, hp.kept⟩

/-- **One step**: what is new about the disk is to be shown, what is old follows. -/
theorem Placed.push {reserved' : Bool} {active' manifest' : Option Location}
    (hp : Placed repoRoot label initial reserved active manifest h)
    (hactive : Lies initial t (activeItem repoRoot) (siteNamed repoRoot label) reserved' active')
    (hmanifest : Lies initial t (manifestItem repoRoot) (siteNamed repoRoot label) reserved'
      manifest')
    (hdirs : ∀ p, p = (createRealTestnetPaths repoRoot).rootDir
      ∨ p = (createRealTestnetPaths repoRoot).manifestPath.dropLast →
      h.disk.isDirectoryAt p → t.isDirectoryAt p)
    (hreserved : reserved = true → reserved' = true)
    (hnew : reserved' = true → initial.node (siteNamed repoRoot label).archiveDir = none)
    (harchives : ∀ x, Foreign label reserved' x →
      (h.disk.node ((createRealTestnetPaths repoRoot).archivesDir ++ [x])).isSome →
      t.sub ((createRealTestnetPaths repoRoot).archivesDir ++ [x])
        = h.disk.sub ((createRealTestnetPaths repoRoot).archivesDir ++ [x])) :
    Placed repoRoot label initial reserved' active' manifest' (h.push t) where
  active := hactive
  manifest := hmanifest
  root := hdirs _ (.inl rfl) hp.root
  deploy hsome := hdirs _ (.inr rfl) (hp.deploy hsome)
  started := List.mem_cons_of_mem _ hp.started
  stagingNew := hp.stagingNew
  archiveNew := hnew
  archives := by
    refine List.forall_mem_cons.mpr ⟨fun _ _ _ => rfl, fun d hd x hx hsome => ?_⟩
    -- a name foreign to the wider reservation is foreign to the narrower one
    have hold : Foreign label reserved x := by
      refine ⟨hx.1, fun heq => ?_⟩
      cases hr : reserved with
      | false => rfl
      | true => exact absurd (hreserved hr ▸ hx.2 heq) nofun
    have hsame := hp.archives d hd x hold hsome
    refine (harchives x hx ?_).trans hsame
    rw [← Tree.sub_nil, hsame, Tree.sub_nil]
    exact hsome
  kept := hp.inOnePlace

/-- A disk that is looked at stays as it is. -/
theorem Placed.look (hp : Placed repoRoot label initial reserved active manifest h) :
    Placed repoRoot label initial reserved active manifest (h.push h.disk) :=
  hp.push hp.active hp.manifest (fun _ _ hdir => hdir) (fun hr => hr) hp.archiveNew fun _ _ _ => rfl

/-! ## Moving an item -/

/-- Two items whose places are apart. -/
structure Item.Different (item other : Item) : Prop where
  original : Apart item.original other.original
  name : item.name ≠ other.name

theorem different : (activeItem repoRoot).Different (manifestItem repoRoot) :=
  ⟨apart_active_manifest, show "active" ≠ "testnet-account.json" by decide⟩

theorem Item.Different.symm {item other : Item} (hd : item.Different other) :
    other.Different item :=
  ⟨hd.original.symm, hd.name.symm⟩

theorem Item.Outside.directory {item : Item} (ho : item.Outside repoRoot) (label : String)
    (l : Location) : Apart item.original ((siteNamed repoRoot label).directory l) := by
  obtain ⟨x, hx⟩ := directory_eq repoRoot label l
  rw [hx]
  exact ho.apart x

/-- Two items never share a place. -/
theorem Item.Different.places {item other : Item} (hd : item.Different other)
    (ho : item.Outside repoRoot) (ho' : other.Outside repoRoot) (l l' : Option Location) :
    Apart (item.place (siteNamed repoRoot label) l)
      (other.place (siteNamed repoRoot label) l') := by
  cases l with
  | none =>
      cases l' with
      | none => exact hd.original
      | some l' =>
          have h := (ho.directory label l').append [] [other.name]
          rwa [List.append_nil] at h
  | some l =>
      cases l' with
      | none =>
          have h := (ho'.directory label l).symm.append [item.name] []
          rwa [List.append_nil] at h
      | some l' =>
          by_cases hl : l = l'
          · rw [hl]
            exact apart_append hd.name [] []
          · exact (apart_directories hl).append _ _

/-- A place among the call's own directories is apart from every other archive. -/
theorem Foreign.place {item : Item} (ho : item.Outside repoRoot) {x : String}
    {l : Option Location} (hx : Foreign label reserved x)
    (hl : l = some .archive → reserved = true) :
    Apart (item.place (siteNamed repoRoot label) l)
      ((createRealTestnetPaths repoRoot).archivesDir ++ [x]) := by
  cases l with
  | none => exact ho.apart x
  | some l =>
      have hdir : Apart ((siteNamed repoRoot label).directory l)
          ((createRealTestnetPaths repoRoot).archivesDir ++ [x]) := by
        cases l with
        | staging => exact apart_archives hx.1.symm
        | archive => exact apart_archives fun heq => absurd (hl rfl ▸ hx.2 heq.symm) nofun
      have h := hdir.append [item.name] []
      rwa [List.append_nil] at h

/-- Neither directory that the items come from is at or below a place of theirs. -/
theorem Item.Different.parent {item other : Item} (hd : item.Different other)
    (ho : item.Outside repoRoot) (ho' : other.Outside repoRoot) (hne : item.original ≠ [])
    (l : Option Location) :
    ¬ item.place (siteNamed repoRoot label) l <+: item.original.dropLast
      ∧ ¬ item.place (siteNamed repoRoot label) l <+: other.original.dropLast := by
  constructor
  · intro hpre
    cases l with
    | none =>
        have hle := hpre.length_le
        have hpos := List.length_pos_iff.mpr hne
        rw [List.length_dropLast] at hle
        exact absurd hle (by show ¬ item.original.length ≤ _; omega)
    | some l =>
        have hapart : Apart (item.place (siteNamed repoRoot label) (some l))
            (item.place (siteNamed repoRoot label) none) := ho.places nofun
        exact hapart.1 (hpre.trans (List.dropLast_prefix _))
  · intro hpre
    exact (hd.places ho ho' l none).1 (hpre.trans (List.dropLast_prefix _))

/-- What a move of one item leaves alone: the other item, the directories they come from, and
    the other archives. -/
structure Spares (item other : Item) (repoRoot : Path) (label : String) (reserved : Bool)
    (t t' : Tree) : Prop where
  stays : ∀ l, t'.sub (other.place (siteNamed repoRoot label) l)
    = t.sub (other.place (siteNamed repoRoot label) l)
  parent : t'.isDirectoryAt item.original.dropLast = t.isDirectoryAt item.original.dropLast
  otherParent : t'.isDirectoryAt other.original.dropLast = t.isDirectoryAt other.original.dropLast
  archives : ∀ x, Foreign label reserved x →
    t'.sub ((createRealTestnetPaths repoRoot).archivesDir ++ [x])
      = t.sub ((createRealTestnetPaths repoRoot).archivesDir ++ [x])

/-- Moving one item spares the other. -/
theorem Item.Different.spares {item other : Item} {t t' : Tree} (hd : item.Different other)
    (ho : item.Outside repoRoot) (ho' : other.Outside repoRoot) (hne : item.original ≠ [])
    {l l' : Option Location} (hl : l = some .archive → reserved = true)
    (hl' : l' = some .archive → reserved = true)
    (hrename : t.rename (item.place (siteNamed repoRoot label) l)
      (item.place (siteNamed repoRoot label) l') = .ok t') :
    Spares item other repoRoot label reserved t t' := by
  have hwithin := Within.rename hrename
  have hboth : ∀ {Q : Path → Prop}, (Q (item.place (siteNamed repoRoot label) l)) →
      Q (item.place (siteNamed repoRoot label) l') →
      ∀ p ∈ [item.place (siteNamed repoRoot label) l,
        item.place (siteNamed repoRoot label) l'], Q p := by
    intro Q h h'
    exact List.forall_mem_cons.mpr ⟨h, List.forall_mem_singleton.mpr h'⟩
  refine ⟨fun m => ?_, ?_, ?_, fun x hx => ?_⟩
  · exact hwithin.sub (hboth (hd.places ho ho' l m) (hd.places ho ho' l' m))
  · exact hwithin.isDirectoryAt
      (hboth (hd.parent ho ho' hne l).1 (hd.parent ho ho' hne l').1)
  · exact hwithin.isDirectoryAt
      (hboth (hd.parent ho ho' hne l).2 (hd.parent ho ho' hne l').2)
  · exact hwithin.sub (hboth (hx.place ho hl) (hx.place ho hl'))

theorem active_dropLast : (activeItem repoRoot).original.dropLast
    = (createRealTestnetPaths repoRoot).rootDir := by
  simp [activeItem, createRealTestnetPaths]

theorem original_ne_nil :
    (activeItem repoRoot).original ≠ [] ∧ (manifestItem repoRoot).original ≠ [] := by
  simp [activeItem, manifestItem, createRealTestnetPaths]

/-- **The active directory moves**, and nothing else does. -/
theorem Placed.moveActive {l : Option Location}
    (hp : Placed repoRoot label initial reserved active manifest h) (hne : active ≠ l)
    (hsome : (initial.node (activeItem repoRoot).original).isSome)
    (hl : l = some .archive → reserved = true)
    (hrename : h.disk.rename ((activeItem repoRoot).place (siteNamed repoRoot label) active)
      ((activeItem repoRoot).place (siteNamed repoRoot label) l) = .ok t) :
    Placed repoRoot label initial reserved l manifest (h.push t) := by
  have hspares := different.spares outside_active outside_manifest original_ne_nil.1
    hp.active.reserved hl hrename
  refine hp.push (hp.active.rename outside_active hne hsome hl hrename)
    (hp.manifest.frame fun m _ => hspares.stays m) ?_ (fun hr => hr) hp.archiveNew
    fun x hx _ => hspares.archives x hx
  rintro p (rfl | rfl) hdir
  · rw [← active_dropLast] at hdir ⊢
    exact hspares.parent.trans hdir
  · exact hspares.otherParent.trans hdir

/-- **The manifest moves**, and nothing else does. -/
theorem Placed.moveManifest {l : Option Location}
    (hp : Placed repoRoot label initial reserved active manifest h) (hne : manifest ≠ l)
    (hsome : (initial.node (manifestItem repoRoot).original).isSome)
    (hl : l = some .archive → reserved = true)
    (hrename : h.disk.rename ((manifestItem repoRoot).place (siteNamed repoRoot label) manifest)
      ((manifestItem repoRoot).place (siteNamed repoRoot label) l) = .ok t) :
    Placed repoRoot label initial reserved active l (h.push t) := by
  have hspares := different.symm.spares outside_manifest outside_active original_ne_nil.2
    hp.manifest.reserved hl hrename
  refine hp.push (hp.active.frame fun m _ => hspares.stays m)
    (hp.manifest.rename outside_manifest hne hsome hl hrename) ?_ (fun hr => hr) hp.archiveNew
    fun x hx _ => hspares.archives x hx
  rintro p (rfl | rfl) hdir
  · rw [← active_dropLast] at hdir ⊢
    exact hspares.otherParent.trans hdir
  · exact hspares.parent.trans hdir

/-! ## The call's own directories -/

/-- A path that only a move of an item may change: where it is in a directory of the call, it is
    at or below an item's place there. -/
def Spared (repoRoot : Path) (label : String) (reserved : Bool) (q : Path) : Prop :=
  ∀ l, (l = Location.archive → reserved = true) →
    (siteNamed repoRoot label).directory l <+: q →
    ∃ name, (name = activeName ∨ name = manifestName)
      ∧ (siteNamed repoRoot label).directory l ++ [name] <+: q

/-- No place of an item is one of the code's own paths. -/
theorem Item.Outside.spared {item : Item} (ho : item.Outside repoRoot)
    (hname : item.name = activeName ∨ item.name = manifestName) (l : Option Location) (r : Path) :
    Spared repoRoot label reserved (item.place (siteNamed repoRoot label) l ++ r) := by
  intro l' _ hpre
  cases l with
  | none => exact absurd hpre ((ho.directory label l').symm.not_above r)
  | some l =>
      by_cases hl : l' = l
      · rw [hl]
        exact ⟨item.name, hname, List.prefix_append ..⟩
      · have hapart : Apart ((siteNamed repoRoot label).directory l')
            ((siteNamed repoRoot label).directory l) := apart_directories hl
        have h := hapart.not_above ([item.name] ++ r)
        rw [← List.append_assoc] at h
        exact absurd hpre h

/-- Another archive is none of the code's own paths. -/
theorem Foreign.spared {x : String} (hx : Foreign label reserved x) (r : Path) :
    Spared repoRoot label reserved ((createRealTestnetPaths repoRoot).archivesDir ++ [x] ++ r) := by
  intro l hl hpre
  cases l with
  | staging => exact absurd hpre ((apart_archives hx.1.symm).not_above r)
  | archive =>
      have hne : label ≠ x := fun heq => absurd (hl rfl ▸ hx.2 heq.symm) nofun
      exact absurd hpre ((apart_archives hne).not_above r)

theorem spared_parent {item : Item} (ho : item.Outside repoRoot) :
    Spared repoRoot label reserved item.original.dropLast := by
  intro l _ hpre
  exact absurd (hpre.trans (List.dropLast_prefix _)) (ho.directory label l).2

/-- **What the call does in its own directories**, but for moving items, changes nothing that
    matters. -/
theorem Placed.own (hp : Placed repoRoot label initial reserved active manifest h)
    (hown : ∀ q, Spared repoRoot label reserved q → t.node q = h.disk.node q) :
    Placed repoRoot label initial reserved active manifest (h.push t) := by
  refine hp.push ?_ ?_ ?_ (fun hr => hr) hp.archiveNew ?_
  · exact hp.active.frame fun l _ => funext fun r => hown _ (outside_active.spared (.inl rfl) l r)
  · exact hp.manifest.frame fun l _ =>
      funext fun r => hown _ (outside_manifest.spared (.inr rfl) l r)
  · rintro p (rfl | rfl) hdir
    · rw [← active_dropLast] at hdir ⊢
      exact (Tree.isDirectoryAt_congr (hown _ (spared_parent outside_active))).trans hdir
    · exact (Tree.isDirectoryAt_congr (hown _ (spared_parent outside_manifest))).trans hdir
  · exact fun x hx _ => funext fun r => hown _ (hx.spared r)

/-- A path in a directory of the call that is no item's place. -/
structure Own (repoRoot : Path) (label : String) (reserved : Bool) (p : Path) : Prop where
  entry : ∃ l name, p = (siteNamed repoRoot label).directory l ++ [name]
    ∧ (l = .archive → reserved = true) ∧ name ≠ activeName ∧ name ≠ manifestName

/-- An own path is above nothing that is spared. -/
theorem Own.not_above {p q : Path} (hp : Own repoRoot label reserved p)
    (hq : Spared repoRoot label reserved q) : ¬ p <+: q := by
  obtain ⟨l, name, rfl, hl, hactive, hmanifest⟩ := hp.entry
  intro hpre
  obtain ⟨name', hname', hpre'⟩ := hq l hl ((List.prefix_append ..).trans hpre)
  have hne : name ≠ name' := by
    rcases hname' with rfl | rfl
    · exact hactive
    · exact hmanifest
  have hapart : Apart ((siteNamed repoRoot label).directory l ++ [name])
      ((siteNamed repoRoot label).directory l ++ [name']) := apart_append hne [] []
  rcases List.prefix_or_prefix_of_prefix hpre hpre' with h | h
  · exact hapart.1 h
  · exact hapart.2 h

/-- Work on own paths keeps the items where they are. -/
theorem Placed.within {ps : List Path}
    (hp : Placed repoRoot label initial reserved active manifest h) (hwithin : Within ps h.disk t)
    (hps : ∀ p ∈ ps, Own repoRoot label reserved p) :
    Placed repoRoot label initial reserved active manifest (h.push t) :=
  hp.own fun q hq => hwithin q fun p hmem => (hps p hmem).not_above hq

theorem Spared.ne_directory {q : Path} (hq : Spared repoRoot label reserved q) {l : Location}
    (hl : l = .archive → reserved = true) : q ≠ (siteNamed repoRoot label).directory l := by
  rintro rfl
  obtain ⟨name, -, hpre⟩ := hq l hl (List.prefix_refl _)
  have hle := hpre.length_le
  rw [List.length_append, List.length_singleton] at hle
  omega

/-- A directory of the call changes, and nothing in it. -/
theorem Placed.directory {l : Location}
    (hp : Placed repoRoot label initial reserved active manifest h)
    (hl : l = .archive → reserved = true)
    (hother : ∀ q, q ≠ (siteNamed repoRoot label).directory l → t.node q = h.disk.node q) :
    Placed repoRoot label initial reserved active manifest (h.push t) :=
  hp.own fun q hq => hother q (hq.ne_directory hl)

/-- In a directory that was not there nothing is an item. -/
theorem Lies.reserve {item : Item} {location : Option Location} {site : Site} {t t' : Tree}
    (h : Lies initial t item site false location) (hvacant : t.node site.archiveDir = none)
    (hsub : ∀ l, t'.sub (item.place site l) = t.sub (item.place site l)) :
    Lies initial t' item site true location where
  here := (hsub location).trans h.here
  elsewhere other hne _ := by
    rw [← Tree.sub_nil, hsub other, Tree.sub_nil]
    by_cases harchive : other = some .archive
    · rw [harchive]
      exact Tree.node_append_of_none hvacant _
    · exact h.elsewhere other hne fun heq => absurd heq harchive
  moved := h.moved
  reserved heq := absurd (h.reserved heq) nofun

/-- **The archive directory is made**: it was not there, neither now nor when the call began. -/
theorem Placed.reserve {mode : Nat}
    (hp : Placed repoRoot label initial false active manifest h)
    (hmkdir : h.disk.mkdir mode (siteNamed repoRoot label).archiveDir = .ok t) :
    Placed repoRoot label initial true active manifest (h.push t) := by
  obtain ⟨hvacant, -, hother⟩ := Tree.make_eq_ok hmkdir
  have hown : ∀ q, Spared repoRoot label true q → t.node q = h.disk.node q :=
    fun q hq => hother q (hq.ne_directory (l := .archive) fun _ => rfl)
  refine hp.push ?_ ?_ ?_ (fun _ => rfl) ?_ ?_
  · exact hp.active.reserve hvacant fun l =>
      funext fun r => hown _ (outside_active.spared (.inl rfl) l r)
  · exact hp.manifest.reserve hvacant fun l =>
      funext fun r => hown _ (outside_manifest.spared (.inr rfl) l r)
  · rintro p (rfl | rfl) hdir
    · rw [← active_dropLast] at hdir ⊢
      exact (Tree.isDirectoryAt_congr (hown _ (spared_parent outside_active))).trans hdir
    · exact (Tree.isDirectoryAt_congr (hown _ (spared_parent outside_manifest))).trans hdir
  · -- an archive that had been there would be there still
    intro _
    by_contra hsome
    have hforeign : Foreign label false label := ⟨staging_ne.symm, fun _ => rfl⟩
    have hsame := congrFun (hp.archives initial hp.started label hforeign
      (Option.isSome_iff_ne_none.mpr hsome)) []
    rw [Tree.sub_nil, Tree.sub_nil] at hsame
    exact hsome (hsame.symm.trans hvacant)
  · exact fun x hx _ => funext fun r => hown _ (hx.spared r)

/-- What a caller may do before the archive is reserved: it adds to the disk, but neither to
    what is archived, nor to the staging directory, nor to an archive that is there. -/
structure Hook (paths : RealTestnetPaths) where
  act : Path → Tree → Tree
  adds : ∀ dir t p, (t.node p).isSome → (act dir t).node p = t.node p
  active : ∀ dir t, (act dir t).sub paths.activeDir = t.sub paths.activeDir
  manifest : ∀ dir t, (act dir t).sub paths.manifestPath = t.sub paths.manifestPath
  staging : ∀ dir t, (act dir t).sub (extended dir ".staging") = t.sub (extended dir ".staging")
  archives : ∀ dir t x, (t.node (paths.archivesDir ++ [x])).isSome →
    (act dir t).sub (paths.archivesDir ++ [x]) = t.sub (paths.archivesDir ++ [x])

theorem Hook.isDirectoryAt {paths : RealTestnetPaths} (hook : Hook paths) {dir p : Path} {t : Tree}
    (hdir : t.isDirectoryAt p) : (hook.act dir t).isDirectoryAt p :=
  (Tree.isDirectoryAt_congr (hook.adds dir t p (Tree.isSome_of_isDirectoryAt hdir))).trans hdir

theorem staging_eq : (siteNamed repoRoot label).staging
    = extended (siteNamed repoRoot label).archiveDir ".staging" := by
  simp only [siteNamed, extended, List.dropLast_concat, List.getLastD_concat]

/-- **The hook leaves both items where they are.** -/
theorem Placed.hook (hook : Hook (createRealTestnetPaths repoRoot))
    (hp : Placed repoRoot label initial false active manifest h) :
    Placed repoRoot label initial false active manifest
      (h.push (hook.act (siteNamed repoRoot label).archiveDir h.disk)) := by
  have hstaging : ∀ r, (hook.act (siteNamed repoRoot label).archiveDir h.disk).sub
      ((siteNamed repoRoot label).staging ++ r)
        = h.disk.sub ((siteNamed repoRoot label).staging ++ r) := by
    intro r
    funext r'
    have hsame := congrFun (hook.staging (siteNamed repoRoot label).archiveDir h.disk) (r ++ r')
    rw [← staging_eq] at hsame
    rw [Tree.sub, Tree.sub, List.append_assoc]
    exact hsame
  have hsub : ∀ item : Item, (hook.act (siteNamed repoRoot label).archiveDir h.disk).sub
        item.original = h.disk.sub item.original →
      ∀ l, (l = some .archive → false = true) →
        (hook.act (siteNamed repoRoot label).archiveDir h.disk).sub
            (item.place (siteNamed repoRoot label) l)
          = h.disk.sub (item.place (siteNamed repoRoot label) l) := by
    intro item horiginal l hl
    cases l with
    | none => exact horiginal
    | some l =>
        cases l with
        | staging => exact hstaging [item.name]
        | archive => exact absurd (hl rfl) nofun
  refine hp.push (hp.active.frame (hsub _ (hook.active _ _)))
    (hp.manifest.frame (hsub _ (hook.manifest _ _))) (fun _ _ hdir => hook.isDirectoryAt hdir)
    (fun hr => hr) hp.archiveNew fun x _ hsome => hook.archives _ _ x hsome

end Points

end CkbArchive
