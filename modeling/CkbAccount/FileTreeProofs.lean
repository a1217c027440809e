import Mathlib.Algebra.Order.BigOperators.Group.List
import Mathlib.Algebra.Order.Group.Nat
import Mathlib.Data.List.Basic
import Mathlib.Data.List.Infix
import Mathlib.Data.List.Induction

/-! # A tree of files

    A file system as a finite tree: what stands at each path.  Every file and every directory
    has an identity that it keeps when it is moved, and stands at one path only.

    * `Tree` carries what makes it a tree: the parent of every path is a directory, and no
      identity stands at two paths;
    * the operations fail without effect, or change the tree as their lemmas say:
      `mkdir`, `mkdirs`, `chmod`, `create`, `write`, `unlink`, `rmdir`, and `rename`, which moves
      all that is below a path;
    * `Apart`: paths neither of which is above the other, so that a change below one is no
      change below the other.

    Links are not followed: an operation that would follow one fails. -/

namespace FileTree

/-- The names from the root. -/
abbrev Path := List String

/-- What can stand at a path, with the mode it was given. -/
inductive Kind where
  | file (mode : Nat) (text : String)
  | directory (mode : Nat)
  | link
  deriving DecidableEq, Repr

namespace Kind

/-- A directory, and no link to one. -/
def isDirectory : Kind → Bool
  | .directory _ => true
  | _ => false

/-- The kind with other permissions; a link has none of its own. -/
def withMode (mode : Nat) : Kind → Option Kind
  | .file _ text => some (.file mode text)
  | .directory _ => some (.directory mode)
  | .link => none

end Kind

/-- A file, directory or link, with its identity. -/
structure Node where
  inode : Nat
  kind : Kind
  deriving DecidableEq, Repr

/-- A directory stands at the path. -/
def Stands (node : Path → Option Node) (p : Path) : Bool :=
  (node p).any fun n => n.kind.isDirectory

/-- A file system. -/
structure Tree where
  node : Path → Option Node
  /-- Where to look for what there is. -/
  paths : List Path
  covers : ∀ p, (node p).isSome → p ∈ paths
  parents : ∀ p x, (node (p ++ [x])).isSome → Stands node p
  inodes : ∀ p q n m, node p = some n → node q = some m → n.inode = m.inode → p = q

/-- Nothing but a root. -/
def Tree.root : Tree where
  node p := if p = [] then some ⟨0, .directory 0o755⟩ else none
  paths := [[]]
  covers p h := by
    by_cases hp : p = []
    · exact hp ▸ List.mem_cons_self
    · rw [if_neg hp] at h
      exact absurd h nofun
  parents p x h := by
    rw [if_neg (List.append_ne_nil_of_right_ne_nil p (List.cons_ne_nil x []))] at h
    exact absurd h nofun
  inodes p q n m hn hm _ := by
    have hroot : ∀ {r : Path} {k : Node},
        (if r = [] then some ⟨0, .directory 0o755⟩ else none) = some k → r = [] := by
      intro r k hk
      by_contra hr
      rw [if_neg hr] at hk
      exact absurd hk nofun
    rw [hroot hn, hroot hm]

/-- The error codes of the calls below. -/
inductive FsError where
  | enoent
  | eexist
  | enotdir
  | eisdir
  | enotempty
  | einval
  | eloop
  /-- Any failure that is not the tree's own. -/
  | failed
  deriving DecidableEq, Repr

namespace Tree

variable (t : Tree)

/-- All that is at and below a path. -/
def sub (p : Path) : Path → Option Node := fun r => t.node (p ++ r)

/-- A directory stands at the path. -/
def isDirectoryAt (p : Path) : Bool := Stands t.node p

/-- Something stands directly below the path. -/
def hasChildren (p : Path) : Bool :=
  t.paths.any fun q => q.dropLast == p && q != [] && (t.node q).isSome

/-- An identity that nothing in the tree has. -/
def fresh : Nat :=
  (t.paths.map fun p => ((t.node p).map (·.inode)).getD 0).foldr (· + ·) 0 + 1

/-- Why nothing is found at a path: something above it is no directory, or is not there. -/
def absent (p : Path) : FsError :=
  if p.inits.any fun q => (t.node q).any fun n => !n.kind.isDirectory then .enotdir else .enoent

end Tree

/-! ## Reading -/

namespace Tree

variable {t : Tree}

/-- A fresh inode is larger than all that are in use. -/
theorem lt_fresh {p : Path} {n : Node} (h : t.node p = some n) : n.inode < t.fresh := by
  have hmem : ((t.node p).map (·.inode)).getD 0
      ∈ t.paths.map fun p => ((t.node p).map (·.inode)).getD 0 :=
    List.mem_map_of_mem (t.covers p (h ▸ rfl))
  have hle := List.single_le_sum (fun _ _ => Nat.zero_le _) _ hmem
  rw [h, Option.map_some, Option.getD_some] at hle
  exact Nat.lt_succ_of_le hle

/-- A path below a path where nothing stands has nothing either. -/
theorem node_append_of_none {p : Path} (h : t.node p = none) (r : Path) :
    t.node (p ++ r) = none := by
  induction r using List.reverseRecOn with
  | nil => rwa [List.append_nil]
  | append_singleton r x ih =>
      rw [← List.append_assoc]
      by_contra hsome
      have hdir := t.parents (p ++ r) x (Option.isSome_iff_ne_none.mpr hsome)
      rw [Stands, ih] at hdir
      exact absurd hdir nofun

theorem sub_of_none {p : Path} (h : t.node p = none) : t.sub p = fun _ => none :=
  funext (node_append_of_none h)

/-- The tree below a path starts with its node. -/
theorem sub_nil (p : Path) : t.sub p [] = t.node p := congrArg t.node (List.append_nil p)

theorem isSome_of_isDirectoryAt {p : Path} (h : t.isDirectoryAt p) : (t.node p).isSome := by
  cases hn : t.node p with
  | none =>
      rw [isDirectoryAt, Stands, hn] at h
      exact absurd h nofun
  | some n => rfl

theorem isDirectoryAt_congr {t' : Tree} {p : Path} (h : t'.node p = t.node p) :
    t'.isDirectoryAt p = t.isDirectoryAt p := by
  rw [isDirectoryAt, isDirectoryAt, Stands, Stands, h]

theorem hasChildren_of_child {p : Path} {x : String} (h : (t.node (p ++ [x])).isSome) :
    t.hasChildren p := by
  refine List.any_eq_true.mpr ⟨p ++ [x], t.covers _ h, ?_⟩
  rw [List.dropLast_concat, h]
  simp

/-- What stands below a directory stands below one of its children. -/
theorem none_below_of_no_children {p : Path} (h : t.hasChildren p = false) {r : Path}
    (hr : r ≠ []) : t.node (p ++ r) = none := by
  obtain ⟨x, rest, rfl⟩ := List.exists_cons_of_ne_nil hr
  have hchild : t.node (p ++ [x]) = none := by
    by_contra hsome
    have htrue := hasChildren_of_child (Option.isSome_iff_ne_none.mpr hsome)
    rw [h] at htrue
    exact absurd htrue nofun
  have hbelow := node_append_of_none hchild rest
  rwa [List.append_assoc] at hbelow

end Tree

/-! ## Putting and removing one node -/

namespace Tree

variable (t : Tree)

/-- The node may stand at the path: below a directory, with an identity that stands nowhere
    else, and as a directory if it has children. -/
structure Fits (p : Path) (n : Node) : Prop where
  parent : ∀ q x, p = q ++ [x] → t.isDirectoryAt q
  single : ∀ q m, t.node q = some m → m.inode = n.inode → q = p
  children : ∀ x, (t.node (p ++ [x])).isSome → n.kind.isDirectory

/-- The tree with this node at the path. -/
def put (p : Path) (n : Node) (h : t.Fits p n) : Tree where
  node q := if q = p then some n else t.node q
  paths := p :: t.paths
  covers q hq := by
    by_cases hqp : q = p
    · exact hqp ▸ List.mem_cons_self
    · rw [if_neg hqp] at hq
      exact List.mem_cons_of_mem _ (t.covers q hq)
  parents q x hx := by
    have hdir : t.isDirectoryAt q ∨ q = p ∧ n.kind.isDirectory := by
      by_cases hqx : q ++ [x] = p
      · exact .inl (h.parent q x hqx.symm)
      · rw [if_neg hqx] at hx
        by_cases hqp : q = p
        · exact .inr ⟨hqp, h.children x (hqp ▸ hx)⟩
        · exact .inl (t.parents q x hx)
    rw [Stands]
    by_cases hqp : q = p
    · rw [if_pos hqp]
      rcases hdir with hdir | ⟨-, hkind⟩
      · -- a directory is replaced: its kind still allows children, for it has this one
        by_cases hqx : q ++ [x] = p
        · exact absurd (congrArg List.length (hqp.trans hqx.symm)) (by simp)
        · rw [if_neg hqx] at hx
          exact h.children x (hqp ▸ hx)
      · exact hkind
    · rw [if_neg hqp]
      rcases hdir with hdir | ⟨heq, -⟩
      · exact hdir
      · exact absurd heq hqp
  inodes q q' m m' hm hm' heq := by
    by_cases hq : q = p
    · by_cases hq' : q' = p
      · exact hq.trans hq'.symm
      · rw [if_pos hq, Option.some.injEq] at hm
        rw [if_neg hq'] at hm'
        exact hq.trans (h.single q' m' hm' (hm ▸ heq.symm)).symm
    · rw [if_neg hq] at hm
      by_cases hq' : q' = p
      · rw [if_pos hq', Option.some.injEq] at hm'
        exact (h.single q m hm (hm' ▸ heq)).trans hq'.symm
      · rw [if_neg hq'] at hm'
        exact t.inodes q q' m m' hm hm' heq

/-- The tree without the node at the path, which has nothing below it. -/
def remove (p : Path) (h : t.hasChildren p = false) : Tree where
  node q := if q = p then none else t.node q
  paths := t.paths
  covers q hq := by
    by_cases hqp : q = p
    · rw [if_pos hqp] at hq
      exact absurd hq nofun
    · rw [if_neg hqp] at hq
      exact t.covers q hq
  parents q x hx := by
    by_cases hqx : q ++ [x] = p
    · rw [if_pos hqx] at hx
      exact absurd hx nofun
    · rw [if_neg hqx] at hx
      have hqp : q ≠ p := by
        rintro rfl
        rw [none_below_of_no_children h (List.cons_ne_nil x [])] at hx
        exact absurd hx nofun
      rw [Stands, if_neg hqp]
      exact t.parents q x hx
  inodes q q' m m' hm hm' heq := by
    by_cases hq : q = p
    · rw [if_pos hq] at hm
      exact absurd hm nofun
    · by_cases hq' : q' = p
      · rw [if_pos hq'] at hm'
        exact absurd hm' nofun
      · rw [if_neg hq] at hm
        rw [if_neg hq'] at hm'
        exact t.inodes q q' m m' hm hm' heq

variable {t}

/-- A new node fits below a directory. -/
theorem fits_new {p : Path} {kind : Kind} (hnone : t.node p = none)
    (hparent : t.isDirectoryAt p.dropLast) : t.Fits p ⟨t.fresh, kind⟩ where
  parent q x hp := by
    rw [hp, List.dropLast_concat] at hparent
    exact hparent
  single q m hm heq := absurd heq (Nat.ne_of_lt (lt_fresh hm))
  children x hx := by
    rw [node_append_of_none hnone [x]] at hx
    exact absurd hx nofun

/-- A node of the same identity fits in a node's place, if it is a directory as that was. -/
theorem fits_replaced {p : Path} {n : Node} {kind : Kind} (hn : t.node p = some n)
    (hkind : kind.isDirectory = n.kind.isDirectory) : t.Fits p ⟨n.inode, kind⟩ where
  parent q x hp := t.parents q x (by rw [← hp, hn]; rfl)
  single q m hm heq := t.inodes q p m n hm hn heq
  children x hx := by
    have hdir := t.parents p x hx
    rw [Stands, hn] at hdir
    rw [hkind]
    exact hdir

/-- Only a directory has something below it. -/
theorem no_children_of_not_directory {p : Path} (h : t.isDirectoryAt p = false) :
    t.hasChildren p = false := by
  refine List.any_eq_false.mpr fun q _ hq => ?_
  simp only [Bool.and_eq_true, beq_iff_eq, bne_iff_ne] at hq
  obtain ⟨⟨rfl, hne⟩, hsome⟩ := hq
  have hdir := t.parents q.dropLast (q.getLast hne) (by rwa [List.dropLast_concat_getLast hne])
  rw [isDirectoryAt] at h
  rw [h] at hdir
  exact absurd hdir nofun

end Tree

/-! ## Moving -/

namespace Tree

variable (t : Tree)

/-- A path that was below `src` is below `dst`. -/
def movedNode (src dst p : Path) : Option Node :=
  if dst <+: p then t.node (src ++ p.drop dst.length) else if src <+: p then none else t.node p

/-- What stands at `src` may go to `dst`: there is a directory for it, outside what is moved. -/
structure Movable (src dst : Path) : Prop where
  source : (t.node src).isSome
  parent : ∀ q x, dst = q ++ [x] → t.isDirectoryAt q
  outside : ¬ src <+: dst

variable {t} {src dst : Path}

/-- What is below the source is below the destination after a move. -/
theorem movedNode_append (r : Path) : t.movedNode src dst (dst ++ r) = t.node (src ++ r) := by
  rw [movedNode, if_pos (List.prefix_append ..), List.drop_left]

/-- A move leaves nothing at the source. -/
theorem movedNode_source {p : Path} (hdst : ¬ dst <+: p)
    (hsrc : src <+: p) : t.movedNode src dst p = none := by
  rw [movedNode, if_neg hdst, if_pos hsrc]

/-- A move leaves everything else as it was. -/
theorem movedNode_other {p : Path} (hdst : ¬ dst <+: p) (hsrc : ¬ src <+: p) :
    t.movedNode src dst p = t.node p := by
  rw [movedNode, if_neg hdst, if_neg hsrc]

/-- Where a node that is in the moved tree was: outside, or below `src`. -/
theorem movedNode_eq_some {p : Path} {n : Node} (h : t.movedNode src dst p = some n) :
    (∃ r, p = dst ++ r ∧ t.node (src ++ r) = some n)
      ∨ (¬ dst <+: p ∧ ¬ src <+: p ∧ t.node p = some n) := by
  by_cases hdst : dst <+: p
  · obtain ⟨r, rfl⟩ := hdst
    rw [movedNode_append] at h
    exact .inl ⟨r, rfl, h⟩
  · rw [movedNode, if_neg hdst] at h
    by_cases hsrc : src <+: p
    · rw [if_pos hsrc] at h
      exact absurd h nofun
    · rw [if_neg hsrc] at h
      exact .inr ⟨hdst, hsrc, h⟩

/-- The parents of what was moved, and of what was not. -/
theorem Movable.parents (h : t.Movable src dst) (p : Path) (x : String)
    (hx : (t.movedNode src dst (p ++ [x])).isSome) : Stands (t.movedNode src dst) p := by
  obtain ⟨n, hn⟩ := Option.isSome_iff_exists.mp hx
  rw [Stands]
  rcases movedNode_eq_some hn with ⟨r, heq, hr⟩ | ⟨hdst, hsrc, hnode⟩
  · rcases List.eq_nil_or_concat r with rfl | ⟨r, y, rfl⟩
    · -- the moved node itself: its parent is the directory it was moved to
      rw [List.append_nil] at heq
      have hp : ¬ dst <+: p := fun hpre => by
        have hle := hpre.length_le
        rw [← heq, List.length_append] at hle
        exact absurd hle (by simp)
      have hp' : ¬ src <+: p := fun hpre => h.outside (heq ▸ hpre.trans (List.prefix_append ..))
      rw [movedNode_other hp hp']
      exact h.parent p x heq.symm
    · rw [List.concat_eq_append, ← List.append_assoc] at heq
      obtain ⟨rfl, hlast⟩ := List.append_inj' heq rfl
      rw [movedNode_append]
      rw [List.concat_eq_append, ← List.append_assoc] at hr
      exact t.parents _ y (hr ▸ rfl)
  · have hp : ¬ dst <+: p := fun hpre => hdst (hpre.trans (List.prefix_append ..))
    have hp' : ¬ src <+: p := fun hpre => hsrc (hpre.trans (List.prefix_append ..))
    rw [movedNode_other hp hp']
    exact t.parents p x (hnode ▸ rfl)

/-- What is moved keeps its identity, and what it replaces is gone. -/
theorem Movable.inodes (p q : Path) (n m : Node) (hn : t.movedNode src dst p = some n)
    (hm : t.movedNode src dst q = some m) (heq : n.inode = m.inode) : p = q := by
  rcases movedNode_eq_some hn with ⟨r, rfl, hr⟩ | ⟨-, hsrc, hnode⟩
  · rcases movedNode_eq_some hm with ⟨r', rfl, hr'⟩ | ⟨-, hsrc', hnode'⟩
    · rw [List.append_cancel_left (t.inodes _ _ n m hr hr' heq)]
    · exact absurd ⟨r, t.inodes _ _ n m hr hnode' heq⟩ hsrc'
  · rcases movedNode_eq_some hm with ⟨r', rfl, hr'⟩ | ⟨-, -, hnode'⟩
    · exact absurd ⟨r', (t.inodes _ _ n m hnode hr' heq).symm⟩ hsrc
    · exact t.inodes p q n m hnode hnode' heq

/-- The tree after a move. -/
def move (src dst : Path) (h : t.Movable src dst) : Tree where
  node := t.movedNode src dst
  paths := t.paths ++ (t.paths.filter (src <+: ·)).map fun p => dst ++ p.drop src.length
  covers p hp := by
    obtain ⟨n, hn⟩ := Option.isSome_iff_exists.mp hp
    rcases movedNode_eq_some hn with ⟨r, rfl, hr⟩ | ⟨-, -, hnode⟩
    · refine List.mem_append_right _ (List.mem_map.mpr ⟨src ++ r, ?_, ?_⟩)
      · exact List.mem_filter.mpr
          ⟨t.covers _ (hr ▸ rfl), decide_eq_true (List.prefix_append src r)⟩
      · rw [List.drop_left]
    · exact List.mem_append_left _ (t.covers p (hnode ▸ rfl))
  parents := h.parents
  inodes := Movable.inodes

end Tree

/-! ## Operations -/

namespace Tree

variable (t : Tree)

/-- `lstat`. -/
def lstat (p : Path) : Except FsError Kind :=
  match t.node p with
  | some n => .ok n.kind
  | none => .error (t.absent p)

/-- `readFile`. -/
def readFile (p : Path) : Except FsError String :=
  match t.node p with
  | some ⟨_, .file _ text⟩ => .ok text
  | some ⟨_, .directory _⟩ => .error .eisdir
  | some ⟨_, .link⟩ => .error .eloop
  | none => .error (t.absent p)

/-- A new node below a directory: `mkdir`, and `open` for a file that must not be there. -/
def make (kind : Kind) (p : Path) : Except FsError Tree :=
  if h : t.node p = none ∧ t.isDirectoryAt p.dropLast then
    .ok (t.put p ⟨t.fresh, kind⟩ (fits_new h.1 h.2))
  else if (t.node p).isSome then .error .eexist
  else .error (t.absent p)

/-- `mkdir`. -/
def mkdir (mode : Nat) (p : Path) : Except FsError Tree := t.make (.directory mode) p

/-- `open(path, "wx")`. -/
def create (mode : Nat) (p : Path) : Except FsError Tree := t.make (.file mode "") p

/-- A directory that may be there already. -/
def ensureDirectory (mode : Nat) (t : Tree) (p : Path) : Except FsError Tree :=
  if t.isDirectoryAt p then .ok t else t.mkdir mode p

/-- `mkdir` with `recursive`: every directory on the way. -/
def mkdirs (mode : Nat) (p : Path) : Except FsError Tree :=
  p.inits.foldlM (ensureDirectory mode) t

/-- Another kind in the place of a node's, a directory for a directory. -/
def alter (p : Path) (f : Kind → Except FsError Kind) : Except FsError Tree :=
  match hn : t.node p with
  | none => .error (t.absent p)
  | some n =>
      match f n.kind with
      | .error e => .error e
      | .ok kind =>
          if h : kind.isDirectory = n.kind.isDirectory then
            .ok (t.put p ⟨n.inode, kind⟩ (fits_replaced hn h))
          else .error .einval

/-- `chmod`. -/
def chmod (mode : Nat) (p : Path) : Except FsError Tree :=
  t.alter p fun kind => ((kind.withMode mode).map Except.ok).getD (.error .eloop)

/-- The text of a file. -/
def write (text : String) (p : Path) : Except FsError Tree :=
  t.alter p fun
    | .file mode _ => .ok (.file mode text)
    | .directory _ => .error .eisdir
    | .link => .error .eloop

/-- `unlink`. -/
def unlink (p : Path) : Except FsError Tree :=
  if t.node p = none then .error (t.absent p)
  else if h : t.isDirectoryAt p = false then
    .ok (t.remove p (no_children_of_not_directory h))
  else .error .eisdir

/-- `rmdir`. -/
def rmdir (p : Path) : Except FsError Tree :=
  if t.node p = none then .error (t.absent p)
  else if t.isDirectoryAt p = false then .error .enotdir
  else if h : t.hasChildren p = false then .ok (t.remove p h)
  else .error .enotempty

/-- What keeps `rename` from moving `src` to `dst`. -/
def obstacle (src dst : Path) : Option FsError :=
  if t.node src = none then some (t.absent src)
  else if src <+: dst then some .einval
  else if !t.isDirectoryAt dst.dropLast then some (t.absent dst)
  else if t.node dst = none then none
  else if t.isDirectoryAt dst && !t.isDirectoryAt src then some .eisdir
  else if !t.isDirectoryAt dst && t.isDirectoryAt src then some .enotdir
  else if t.hasChildren dst then some .enotempty
  else none

end Tree

namespace Tree

variable {t t' : Tree}

/-- Without an obstacle a move is possible. -/
theorem movable_of_obstacle {src dst : Path} (h : t.obstacle src dst = none) :
    t.Movable src dst := by
  rw [obstacle] at h
  by_cases hsource : t.node src = none
  · rw [if_pos hsource] at h
    exact absurd h nofun
  · rw [if_neg hsource] at h
    by_cases houtside : src <+: dst
    · rw [if_pos houtside] at h
      exact absurd h nofun
    · rw [if_neg houtside] at h
      refine ⟨Option.isSome_iff_ne_none.mpr hsource, fun q x hdst => ?_, houtside⟩
      by_contra hparent
      rw [hdst, List.dropLast_concat, Bool.eq_false_iff.mpr hparent] at h
      exact absurd h nofun

/-- Nothing keeps a node from moving to a path where nothing is, below a directory. -/
theorem obstacle_of_vacant {src dst : Path} (hsource : (t.node src).isSome)
    (houtside : ¬ src <+: dst) (hparent : t.isDirectoryAt dst.dropLast)
    (hvacant : t.node dst = none) : t.obstacle src dst = none := by
  rw [obstacle, if_neg (Option.isSome_iff_ne_none.mp hsource), if_neg houtside, hparent,
    if_neg nofun, if_pos hvacant]

/-- `rename`: nothing happens if the paths are the same. -/
def rename (t : Tree) (src dst : Path) : Except FsError Tree :=
  if src = dst then (t.lstat src).map fun _ => t
  else
    match h : t.obstacle src dst with
    | some e => .error e
    | none => .ok (t.move src dst (movable_of_obstacle h))

/-! ## What the operations do -/

section Effects

variable {p q src dst : Path} {mode : Nat}

theorem lstat_eq_ok {kind : Kind} (h : t.lstat p = .ok kind) :
    ∃ n, t.node p = some n ∧ n.kind = kind := by
  rw [lstat] at h
  cases hn : t.node p with
  | none =>
      rw [hn] at h
      exact absurd h nofun
  | some n =>
      rw [hn] at h
      exact ⟨n, rfl, Except.ok.inj h⟩

theorem lstat_eq_error {e : FsError} (h : t.lstat p = .error e) : t.node p = none := by
  rw [lstat] at h
  cases hn : t.node p with
  | none => rfl
  | some n =>
      rw [hn] at h
      exact absurd h nofun

/-- What is made was not there, and nothing else changes. -/
theorem make_eq_ok {kind : Kind} (h : t.make kind p = .ok t') :
    t.node p = none ∧ t'.node p = some ⟨t.fresh, kind⟩ ∧ ∀ q, q ≠ p → t'.node q = t.node q := by
  rw [make] at h
  by_cases hfree : t.node p = none ∧ t.isDirectoryAt p.dropLast
  · rw [dif_pos hfree] at h
    cases h
    exact ⟨hfree.1, if_pos rfl, fun q hq => if_neg hq⟩
  · rw [dif_neg hfree] at h
    by_cases hsome : (t.node p).isSome
    · rw [if_pos hsome] at h
      exact absurd h nofun
    · rw [if_neg hsome] at h
      exact absurd h nofun

/-- **Afterwards there is a directory, and what was there is still the same.** -/
theorem ensureDirectory_eq_ok (h : t.ensureDirectory mode p = .ok t') :
    t'.isDirectoryAt p ∧ (∀ q, (t.node q).isSome → t'.node q = t.node q)
      ∧ ∀ q, q ≠ p → t'.node q = t.node q := by
  rw [ensureDirectory] at h
  by_cases hdir : t.isDirectoryAt p
  · rw [if_pos hdir] at h
    cases h
    exact ⟨hdir, fun _ _ => rfl, fun _ _ => rfl⟩
  · rw [if_neg hdir] at h
    obtain ⟨hnone, hnew, hother⟩ := make_eq_ok h
    refine ⟨?_, fun q hq => hother q ?_, hother⟩
    · rw [isDirectoryAt, Stands, hnew]
      rfl
    · rintro rfl
      rw [hnone] at hq
      exact absurd hq nofun

/-- The same for several directories. -/
theorem foldlM_ensureDirectory_eq_ok {ps : List Path} :
    ∀ {t : Tree}, ps.foldlM (ensureDirectory mode) t = .ok t' →
      (∀ p ∈ ps, t'.isDirectoryAt p) ∧ (∀ q, (t.node q).isSome → t'.node q = t.node q)
        ∧ ∀ q, q ∉ ps → t'.node q = t.node q := by
  induction ps with
  | nil =>
      intro t h
      cases h
      exact ⟨nofun, fun _ _ => rfl, fun _ _ => rfl⟩
  | cons p ps ih =>
      intro t h
      rw [List.foldlM_cons] at h
      cases hfirst : ensureDirectory mode t p with
      | error e =>
          rw [hfirst] at h
          exact absurd h nofun
      | ok t₁ =>
          rw [hfirst] at h
          obtain ⟨hdir, hkeeps, hother⟩ := ensureDirectory_eq_ok hfirst
          obtain ⟨hdirs, hkeeps', hother'⟩ := ih h
          refine ⟨?_, fun q hq => ?_, fun q hq => ?_⟩
          · refine List.forall_mem_cons.mpr ⟨?_, hdirs⟩
            rw [isDirectoryAt_congr (hkeeps' p (isSome_of_isDirectoryAt hdir))]
            exact hdir
          · rw [hkeeps' q (by rw [hkeeps q hq]; exact hq), hkeeps q hq]
          · rw [hother' q fun hmem => hq (List.mem_cons_of_mem _ hmem),
              hother q fun heq => hq (heq ▸ List.mem_cons_self)]

/-- **Directories are added on the way to the path**, and nothing that is there changes. -/
theorem mkdirs_eq_ok (h : t.mkdirs mode p = .ok t') :
    t'.isDirectoryAt p ∧ (∀ q, (t.node q).isSome → t'.node q = t.node q)
      ∧ ∀ q, ¬ q <+: p → t'.node q = t.node q := by
  obtain ⟨hdirs, hkeeps, hother⟩ := foldlM_ensureDirectory_eq_ok h
  exact ⟨hdirs p ((List.mem_inits ..).mpr (List.prefix_refl p)), hkeeps,
    fun q hq => hother q fun hmem => hq ((List.mem_inits ..).mp hmem)⟩

/-- A change of one node keeps the rest, and keeps a directory a directory. -/
theorem alter_eq_ok {f : Kind → Except FsError Kind} (h : t.alter p f = .ok t') :
    t'.isDirectoryAt p = t.isDirectoryAt p ∧ ∀ q, q ≠ p → t'.node q = t.node q := by
  rw [alter] at h
  split at h
  · exact absurd h nofun
  · rename_i n hn
    cases hf : f n.kind with
    | error e =>
        simp only [hf] at h
        exact absurd h nofun
    | ok kind =>
        simp only [hf] at h
        by_cases hkind : kind.isDirectory = n.kind.isDirectory
        · rw [dif_pos hkind] at h
          cases h
          refine ⟨?_, fun q hq => if_neg hq⟩
          have hnew : ∀ h, (t.put p ⟨n.inode, kind⟩ h).node p = some ⟨n.inode, kind⟩ :=
            fun _ => if_pos rfl
          rw [isDirectoryAt, isDirectoryAt, Stands, Stands, hnew, hn]
          exact hkind
        · rw [dif_neg hkind] at h
          exact absurd h nofun

/-- A file or a link is gone, and nothing else changes. -/
theorem unlink_eq_ok (h : t.unlink p = .ok t') :
    t'.node p = none ∧ t.isDirectoryAt p = false ∧ ∀ q, q ≠ p → t'.node q = t.node q := by
  rw [unlink] at h
  by_cases hnone : t.node p = none
  · rw [if_pos hnone] at h
    exact absurd h nofun
  · rw [if_neg hnone] at h
    by_cases hdir : t.isDirectoryAt p = false
    · rw [dif_pos hdir] at h
      cases h
      exact ⟨if_pos rfl, hdir, fun q hq => if_neg hq⟩
    · rw [dif_neg hdir] at h
      exact absurd h nofun

/-- An empty directory is gone, and nothing else changes. -/
theorem rmdir_eq_ok (h : t.rmdir p = .ok t') :
    t.hasChildren p = false ∧ t'.node p = none ∧ ∀ q, q ≠ p → t'.node q = t.node q := by
  rw [rmdir] at h
  by_cases hnone : t.node p = none
  · rw [if_pos hnone] at h
    exact absurd h nofun
  · rw [if_neg hnone] at h
    by_cases hdir : t.isDirectoryAt p = false
    · rw [if_pos hdir] at h
      exact absurd h nofun
    · rw [if_neg hdir] at h
      by_cases hempty : t.hasChildren p = false
      · rw [dif_pos hempty] at h
        cases h
        exact ⟨hempty, if_pos rfl, fun q hq => if_neg hq⟩
      · rw [dif_neg hempty] at h
        exact absurd h nofun

/-- **A move takes all that is below the source along** and changes nothing elsewhere. -/
theorem rename_eq_ok (hne : src ≠ dst) (h : t.rename src dst = .ok t') :
    t'.sub dst = t.sub src
      ∧ (∀ q, src <+: q → ¬ dst <+: q → t'.node q = none)
      ∧ ∀ q, ¬ src <+: q → ¬ dst <+: q → t'.node q = t.node q := by
  rw [rename, if_neg hne] at h
  split at h
  · exact absurd h nofun
  · cases h
    exact ⟨funext movedNode_append, fun q hsrc hdst => movedNode_source hdst hsrc,
      fun q hsrc hdst => movedNode_other hdst hsrc⟩

/-- A move to a path where nothing is, below a directory, succeeds. -/
theorem rename_of_vacant (hsource : (t.node src).isSome) (houtside : ¬ src <+: dst)
    (hparent : t.isDirectoryAt dst.dropLast) (hvacant : t.node dst = none) :
    ∃ t', t.rename src dst = .ok t' := by
  have hne : src ≠ dst := fun heq => houtside (heq ▸ List.prefix_refl src)
  have hnone := obstacle_of_vacant hsource houtside hparent hvacant
  refine ⟨t.move src dst (movable_of_obstacle hnone), ?_⟩
  rw [rename, if_neg hne]
  split
  · rename_i e he
    rw [hnone] at he
    exact absurd he nofun
  · rfl

end Effects

end Tree

/-! ## Changes below given paths -/

/-- Neither path is above the other. -/
def Apart (p q : Path) : Prop := ¬ p <+: q ∧ ¬ q <+: p

/-- A path apart from another is above nothing below it. -/
theorem Apart.not_above {p q : Path} (h : Apart p q) (r : Path) : ¬ p <+: q ++ r := by
  intro hpre
  rcases List.prefix_or_prefix_of_prefix hpre (List.prefix_append q r) with hpq | hqp
  · exact h.1 hpq
  · exact h.2 hqp

theorem Apart.symm {p q : Path} (h : Apart p q) : Apart q p := ⟨h.2, h.1⟩

/-- What is below paths that are apart is apart. -/
theorem Apart.append {p q : Path} (h : Apart p q) (r r' : Path) : Apart (p ++ r) (q ++ r') :=
  ⟨fun hpre => h.not_above r' ((List.prefix_append p r).trans hpre),
    fun hpre => h.symm.not_above r ((List.prefix_append q r').trans hpre)⟩

/-- Paths that part at a name. -/
theorem apart_append {p : Path} {x y : String} (h : x ≠ y) (r r' : Path) :
    Apart (p ++ x :: r) (p ++ y :: r') := by
  constructor
  · rw [List.prefix_append_right_inj, List.cons_prefix_cons]
    exact fun hpre => h hpre.1
  · rw [List.prefix_append_right_inj, List.cons_prefix_cons]
    exact fun hpre => h hpre.1.symm

/-- The trees differ at most below the paths. -/
def Within (ps : List Path) (t t' : Tree) : Prop :=
  ∀ q, (∀ p ∈ ps, ¬ p <+: q) → t'.node q = t.node q

namespace Within

variable {ps : List Path} {t t' : Tree}

theorem refl : Within ps t t := fun _ _ => rfl

theorem sub {q : Path} (h : Within ps t t') (hq : ∀ p ∈ ps, Apart p q) : t'.sub q = t.sub q :=
  funext fun r => h (q ++ r) fun p hp => (hq p hp).not_above r

theorem node {q : Path} (h : Within ps t t') (hq : ∀ p ∈ ps, Apart p q) : t'.node q = t.node q :=
  h q fun p hp => (hq p hp).1

theorem isDirectoryAt {q : Path} (h : Within ps t t') (hq : ∀ p ∈ ps, ¬ p <+: q) :
    t'.isDirectoryAt q = t.isDirectoryAt q :=
  Tree.isDirectoryAt_congr (h q hq)

theorem of_other {p : Path} (h : ∀ q, q ≠ p → t'.node q = t.node q) : Within [p] t t' :=
  fun q hq => h q fun heq => hq p List.mem_cons_self (heq ▸ List.prefix_refl q)

theorem make {p : Path} {kind : Kind} (h : t.make kind p = .ok t') : Within [p] t t' :=
  of_other (Tree.make_eq_ok h).2.2

theorem alter {p : Path} {f : Kind → Except FsError Kind} (h : t.alter p f = .ok t') :
    Within [p] t t' :=
  of_other (Tree.alter_eq_ok h).2

theorem unlink {p : Path} (h : t.unlink p = .ok t') : Within [p] t t' :=
  of_other (Tree.unlink_eq_ok h).2.2

theorem rmdir {p : Path} (h : t.rmdir p = .ok t') : Within [p] t t' :=
  of_other (Tree.rmdir_eq_ok h).2.2

theorem rename {src dst : Path} (h : t.rename src dst = .ok t') : Within [src, dst] t t' := by
  intro q hq
  by_cases hne : src = dst
  · rw [Tree.rename, if_pos hne] at h
    cases hstat : t.lstat src with
    | error e =>
        rw [hstat] at h
        exact absurd h nofun
    | ok kind =>
        rw [hstat] at h
        cases h
        rfl
  · exact (Tree.rename_eq_ok hne h).2.2 q (hq src List.mem_cons_self)
      (hq dst (List.mem_cons_of_mem _ List.mem_cons_self))

end Within

end FileTree
