/-
The order of listings.

A file system may list the entries of a folder in any order, and no path tells the order.  So on two
disks that differ in nothing else, paths lead to the same places, and to trees that differ in
nothing else.

New notions:
* `Tree.Reordered` — the same tree, with the entries of each folder in some other order;
* `Disk.Reordered` — the same for disks.

Main results:
* `Reordered.isProper` — reordering keeps names apart;
* `Reordered.descendant?` — what lies behind names is reordered, too;
* `Reordered.descendant?_eq_file_iff` — files stay where they are;
* `Disk.Reordered.find` — what lies at a path is reordered.
-/
import Screenplay.Proofs.Files.Follow

namespace Screenplay

namespace Tree

variable {α : Type}

mutual

/-- The same tree, with the entries of each folder in some other order. -/
inductive Reordered : Tree α → Tree α → Prop
  | file (content : α) : Reordered (.file content) (.file content)
  | folder {entries below listed : List (String × Tree α)} (hbelow : BelowReordered entries below)
      (horder : below.Perm listed) : Reordered (.folder entries) (.folder listed)

/-- The same entries in the same order, each with its tree reordered. -/
inductive BelowReordered : List (String × Tree α) → List (String × Tree α) → Prop
  | nil : BelowReordered [] []
  | cons {name : String} {tree other : Tree α} {entries others : List (String × Tree α)}
      (htree : Reordered tree other) (hentries : BelowReordered entries others) :
      BelowReordered ((name, tree) :: entries) ((name, other) :: others)

end

mutual

theorem Reordered.refl : ∀ tree : Tree α, tree.Reordered tree
  | .file content => .file content
  | .folder entries => .folder (BelowReordered.refl entries) (.refl entries)

theorem BelowReordered.refl : ∀ entries : List (String × Tree α), BelowReordered entries entries
  | [] => .nil
  | (_, tree) :: entries => .cons (Reordered.refl tree) (BelowReordered.refl entries)

end

theorem BelowReordered.map_fst : ∀ {entries others : List (String × Tree α)},
    BelowReordered entries others → entries.map Prod.fst = others.map Prod.fst
  | _, _, .nil => rfl
  | _, _, .cons _ hentries => congrArg (_ :: ·) hentries.map_fst

mutual

/-- Reordering keeps names apart. -/
theorem Reordered.isProper : ∀ {tree other : Tree α}, tree.Reordered other → tree.IsProper →
    other.IsProper
  | _, _, .file _, _ => trivial
  | _, _, .folder hbelow horder, h => by
    obtain ⟨hnames, hentries⟩ := areProper_iff.mp (hbelow.areProper h)
    exact areProper_iff.mpr ⟨(horder.map Prod.fst).nodup_iff.mp hnames,
      fun entry hentry => hentries entry (horder.mem_iff.mpr hentry)⟩

theorem BelowReordered.areProper : ∀ {entries others : List (String × Tree α)},
    BelowReordered entries others → AreProper entries → AreProper others
  | _, _, .nil, _ => trivial
  | _, _, .cons htree hentries, ⟨hname, hnew, hproper, hrest⟩ =>
    ⟨hname, hentries.map_fst ▸ hnew, htree.isProper hproper, hentries.areProper hrest⟩

end

theorem BelowReordered.lookup (name : String) : ∀ {entries others : List (String × Tree α)},
    BelowReordered entries others →
      Option.Rel Reordered (entries.lookup name) (others.lookup name)
  | [], _, .nil => .none
  | (first, _) :: _, _, .cons htree hentries => by
    rw [List.lookup_cons, List.lookup_cons]
    cases name == first with
    | true => exact .some htree
    | false => exact hentries.lookup name

/-- If no name stands twice, the order of entries does not matter for what a name stands for. -/
theorem lookup_eq_of_perm {β : Type} {entries others : List (String × β)}
    (h : (entries.map Prod.fst).Nodup) (horder : entries.Perm others) (name : String) :
    entries.lookup name = others.lookup name := by
  have hothers : (others.map Prod.fst).Nodup := (horder.map Prod.fst).nodup_iff.mp h
  refine Option.ext fun value => ?_
  rw [lookup_eq_some_iff h, lookup_eq_some_iff hothers, horder.mem_iff]

namespace Reordered

variable {tree other : Tree α}

theorem child? (h : tree.Reordered other) (hproper : tree.IsProper) (name : String) :
    Option.Rel Reordered (tree.child? name) (other.child? name) := by
  cases h with
  | file content => exact .none
  | folder hbelow horder =>
    have hnames := (areProper_iff.mp (hbelow.areProper hproper)).1
    show Option.Rel Reordered (List.lookup name _) (List.lookup name _)
    rw [← lookup_eq_of_perm hnames horder]
    exact hbelow.lookup name

/-- What lies behind names is reordered, too. -/
theorem descendant? (h : tree.Reordered other) (hproper : tree.IsProper) (names : List String) :
    Option.Rel Reordered (tree.descendant? names) (other.descendant? names) := by
  induction names generalizing tree other with
  | nil => exact .some h
  | cons name names ih =>
    rw [descendant?_cons, descendant?_cons]
    have hchild := h.child? hproper name
    have hbelow : ∀ child, tree.child? name = some child → child.IsProper :=
      fun child hchild => (hproper.of_child? hchild).2
    revert hchild hbelow
    generalize tree.child? name = one, other.child? name = two
    rintro (hchild | _) hbelow
    · exact ih hchild (hbelow _ rfl)
    · exact .none

theorem exists_descendant? {below : Tree α} {names : List String} (h : tree.Reordered other)
    (hproper : tree.IsProper) (hbelow : tree.descendant? names = some below) :
    ∃ below', other.descendant? names = some below' ∧ below.Reordered below' := by
  have hrel := h.descendant? hproper names
  rw [hbelow] at hrel
  generalize other.descendant? names = found at hrel ⊢
  cases hrel with
  | some hreordered => exact ⟨_, rfl, hreordered⟩

/-- Files stay where they are. -/
theorem descendant?_eq_file_iff {names : List String} {content : α} (h : tree.Reordered other)
    (hproper : tree.IsProper) :
    other.descendant? names = some (.file content) ↔
      tree.descendant? names = some (.file content) := by
  have hrel := h.descendant? hproper names
  generalize tree.descendant? names = one, other.descendant? names = two at hrel ⊢
  cases hrel with
  | none => rfl
  | some hreordered =>
    cases hreordered with
    | file => rfl
    | folder => simp

theorem isSome_lookup {entries listed : List (String × Tree α)}
    (h : (Tree.folder entries).Reordered (.folder listed))
    (hproper : (Tree.folder entries).IsProper) (name : String) :
    (listed.lookup name).isSome = (entries.lookup name).isSome := by
  have hrel : Option.Rel Reordered (entries.lookup name) (listed.lookup name) :=
    h.child? hproper name
  generalize entries.lookup name = one, listed.lookup name = two at hrel ⊢
  cases hrel <;> rfl

end Reordered

end Tree

namespace Disk

variable {disk other : Disk}

/-- The same disk, with the entries of each folder in some other order. -/
structure Reordered (disk other : Disk) : Prop where
  root : disk.root.Reordered other.root
  home : disk.home = other.home

theorem Reordered.refl (disk : Disk) : disk.Reordered disk := ⟨.refl disk.root, rfl⟩

/-- A path is followed to the same names, whatever the order of entries. -/
theorem follow_reordered {root root' : Tree Content} (h : root.Reordered root')
    (hproper : root.IsProper) (here pieces : List String) :
    follow root' here pieces = follow root here pieces := by
  induction pieces generalizing here with
  | nil => rfl
  | cons piece pieces ih =>
    have hhere := h.descendant? hproper here
    have hentry : ∀ entries, root.descendant? here = some (.folder entries) →
        (Tree.folder entries).IsProper := fun entries hfolder =>
      (hproper.of_descendant? hfolder).2
    revert hhere hentry
    rw [follow, follow]
    generalize root.descendant? here = one, root'.descendant? here = two
    rintro (hreordered | _) hentry
    · cases hreordered with
      | file => rfl
      | folder hbelow horder =>
        have hisSome := (Tree.Reordered.folder hbelow horder).isSome_lookup (hentry _ rfl) piece
        simp only [hisSome, ih]
    · rfl

/-- What lies at a path is reordered. -/
theorem Reordered.find {path : String} {tree : Tree Content} (h : disk.Reordered other)
    (hproper : disk.root.IsProper) (hfind : disk.find path = .ok tree) :
    ∃ tree', other.find path = .ok tree' ∧ tree.Reordered tree' := by
  obtain ⟨here, pieces, names, hstart, hfollow, hnames⟩ := find_eq_ok_iff.mp hfind
  obtain ⟨tree', hother, hreordered⟩ := h.root.exists_descendant? hproper hnames
  refine ⟨tree', find_eq_ok_iff.mpr ⟨here, pieces, names, ?_, ?_, hother⟩, hreordered⟩
  · rw [start_eq_ok_iff] at hstart ⊢
    rwa [← h.home]
  · rw [follow_reordered h.root hproper, hfollow]

end Disk

end Screenplay
