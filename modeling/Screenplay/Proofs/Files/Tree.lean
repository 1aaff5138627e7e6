/-
Files and folders by their names.

On a file system the names in a folder differ from each other, and each of them can stand between
the slashes of a path.  In such a tree the names on the way to a file tell which file it is.

New notions:
* `IsFileName` — a name of a file or a folder;
* `Tree.IsProper` — a tree with such names, different from each other in each folder.

Main results:
* `lookup_eq_some_iff`: what a name stands for, if no name stands twice;
* `IsProper.of_descendant?` — what lies below a folder is as proper as the folder;
* `mem_files_iff` — the files of a tree are those behind their names;
* `nodup_files` — no file is listed twice.
-/
import Mathlib.Data.List.Nodup
import Screenplay.Files.Disk
import Screenplay.Proofs.Path.Resolve

namespace Screenplay

/-- A name that a file or a folder can have. -/
structure IsFileName (name : String) : Prop where
  isName : Path.IsName name
  noSlash : '/' ∉ name.toList
  noNul : '\x00' ∉ name.toList
  short : name.utf8ByteSize ≤ Disk.maxName

instance (name : String) : Decidable (IsFileName name) :=
  decidable_of_iff ((name ≠ "" ∧ name ≠ "." ∧ name ≠ "..") ∧ '/' ∉ name.toList ∧
      '\x00' ∉ name.toList ∧ name.utf8ByteSize ≤ Disk.maxName)
    ⟨fun ⟨hname, hslash, hnul, hshort⟩ => ⟨hname, hslash, hnul, hshort⟩,
      fun h => ⟨h.isName, h.noSlash, h.noNul, h.short⟩⟩

namespace Tree

variable {α : Type}

mutual

/-- Whether all names in a tree are those of files, and no two in a folder are the same. -/
def IsProper : Tree α → Prop
  | .file _ => True
  | .folder entries => AreProper entries

/-- The same for the entries of a folder. -/
def AreProper : List (String × Tree α) → Prop
  | [] => True
  | (name, tree) :: entries =>
    IsFileName name ∧ name ∉ entries.map Prod.fst ∧ IsProper tree ∧ AreProper entries

end

/-! ### Entries -/

theorem areProper_iff {entries : List (String × Tree α)} :
    AreProper entries ↔ (entries.map Prod.fst).Nodup ∧
      ∀ entry ∈ entries, IsFileName entry.1 ∧ IsProper entry.2 := by
  induction entries with
  | nil => simp [AreProper]
  | cons entry entries ih =>
    obtain ⟨name, tree⟩ := entry
    rw [AreProper, ih, List.map_cons, List.nodup_cons, List.forall_mem_cons]
    tauto

/-- If no name stands twice, a name stands for what is listed under it. -/
theorem lookup_eq_some_iff {β : Type} {entries : List (String × β)}
    (h : (entries.map Prod.fst).Nodup) {name : String} {value : β} :
    entries.lookup name = some value ↔ (name, value) ∈ entries := by
  induction entries with
  | nil => simp
  | cons entry entries ih =>
    obtain ⟨other, first⟩ := entry
    rw [List.map_cons, List.nodup_cons] at h
    by_cases hname : name = other
    · subst hname
      have hrest : (name, value) ∉ entries := fun hmem => h.1 (List.mem_map.mpr ⟨_, hmem, rfl⟩)
      simp [hrest, eq_comm]
    · have hne : (name == other) = false := by simpa using hname
      rw [List.lookup_cons, hne, ih h.2]
      simp [hname]

/-! ### Behind names -/

@[simp] theorem descendant?_nil (tree : Tree α) : tree.descendant? [] = some tree := rfl

theorem descendant?_cons (tree : Tree α) (name : String) (names : List String) :
    tree.descendant? (name :: names) = (tree.child? name).bind (·.descendant? names) := rfl

theorem descendant?_append (tree : Tree α) (names more : List String) :
    tree.descendant? (names ++ more) = (tree.descendant? names).bind (·.descendant? more) :=
  List.foldlM_append

theorem IsProper.of_child? {tree child : Tree α} {name : String} (h : tree.IsProper)
    (hchild : tree.child? name = some child) : IsFileName name ∧ child.IsProper := by
  cases tree with
  | file content => simp [child?] at hchild
  | folder entries =>
    have hproper := areProper_iff.mp h
    exact hproper.2 (name, child) ((lookup_eq_some_iff hproper.1).mp hchild)

/-- What lies below a folder is as proper as the folder, and so are the names on the way. -/
theorem IsProper.of_descendant? {tree below : Tree α} {names : List String} (h : tree.IsProper)
    (hbelow : tree.descendant? names = some below) :
    (∀ name ∈ names, IsFileName name) ∧ below.IsProper := by
  induction names generalizing tree with
  | nil =>
    obtain rfl : tree = below := Option.some.inj hbelow
    exact ⟨by simp, h⟩
  | cons name names ih =>
    obtain ⟨child, hchild, hrest⟩ := Option.bind_eq_some_iff.mp hbelow
    obtain ⟨hname, hproper⟩ := h.of_child? hchild
    obtain ⟨hnames, hbelow⟩ := ih hproper hrest
    exact ⟨List.forall_mem_cons.mpr ⟨hname, hnames⟩, hbelow⟩

/-! ### The list of files -/

/-- The files below an entry have its name in front. -/
theorem mem_filesOfEntries_cons {first : String} {tree : Tree α} {entries : List (String × Tree α)}
    {names : List String} {content : α} :
    (names, content) ∈ filesOfEntries ((first, tree) :: entries) ↔
      (∃ rest, names = first :: rest ∧ (rest, content) ∈ tree.files) ∨
        (names, content) ∈ filesOfEntries entries := by
  rw [filesOfEntries, List.mem_append, List.mem_map]
  refine or_congr_left ⟨?_, ?_⟩
  · rintro ⟨⟨rest, kept⟩, hmem, heq⟩
    obtain ⟨rfl, rfl⟩ := Prod.mk.inj heq
    exact ⟨rest, rfl, hmem⟩
  · rintro ⟨rest, rfl, hmem⟩
    exact ⟨(rest, content), hmem, rfl⟩

mutual

/-- The files of a tree are those behind their names. -/
theorem mem_files_iff : ∀ {tree : Tree α}, tree.IsProper → ∀ {names : List String} {content : α},
    (names, content) ∈ tree.files ↔ tree.descendant? names = some (.file content)
  | .file kept, _, names, content => by
    cases names with
    | nil => simp [files, eq_comm]
    | cons name names => simp [files, descendant?_cons, child?]
  | .folder entries, h, names, content => by
    rw [files, mem_filesOfEntries_iff h]
    cases names with
    | nil => simp
    | cons name names =>
      simp [descendant?_cons, child?, Option.bind_eq_some_iff,
        lookup_eq_some_iff (areProper_iff.mp h).1]

theorem mem_filesOfEntries_iff : ∀ {entries : List (String × Tree α)}, AreProper entries →
    ∀ {names : List String} {content : α}, (names, content) ∈ filesOfEntries entries ↔
      ∃ name rest tree, names = name :: rest ∧ (name, tree) ∈ entries ∧
        tree.descendant? rest = some (.file content)
  | [], _, names, content => by simp [filesOfEntries]
  | (first, tree) :: entries, h, names, content => by
    obtain ⟨-, -, htree, hentries⟩ := h
    rw [mem_filesOfEntries_cons, mem_filesOfEntries_iff hentries]
    constructor
    · rintro (⟨rest, rfl, hmem⟩ | ⟨name, rest, other, rfl, hmem, hrest⟩)
      · exact ⟨first, rest, tree, rfl, List.mem_cons_self, (mem_files_iff htree).mp hmem⟩
      · exact ⟨name, rest, other, rfl, List.mem_cons_of_mem _ hmem, hrest⟩
    · rintro ⟨name, rest, other, rfl, hmem, hrest⟩
      rcases List.mem_cons.mp hmem with heq | hmem
      · obtain ⟨rfl, rfl⟩ := Prod.mk.inj heq
        exact .inl ⟨rest, rfl, (mem_files_iff htree).mpr hrest⟩
      · exact .inr ⟨name, rest, other, rfl, hmem, hrest⟩

end

mutual

/-- No file is listed twice. -/
theorem nodup_files : ∀ {tree : Tree α}, tree.IsProper → (tree.files.map Prod.fst).Nodup
  | .file content, _ => by simp [files]
  | .folder entries, h => nodup_filesOfEntries h

theorem nodup_filesOfEntries : ∀ {entries : List (String × Tree α)}, AreProper entries →
    ((filesOfEntries entries).map Prod.fst).Nodup
  | [], _ => by simp [filesOfEntries]
  | (first, tree) :: entries, h => by
    obtain ⟨-, hfirst, htree, hentries⟩ := h
    have hhere : (tree.files.map fun file => first :: file.1).Nodup := by
      have hmap := (nodup_files htree).map (List.cons_injective (a := first))
      rwa [List.map_map] at hmap
    rw [filesOfEntries, List.map_append, List.map_map]
    refine List.nodup_append'.mpr ⟨hhere, nodup_filesOfEntries hentries, ?_⟩
    -- the files of the other entries have another name in front
    intro names hnames hothers
    obtain ⟨file, -, rfl⟩ := List.mem_map.mp hnames
    obtain ⟨⟨others, content⟩, hmem, heq⟩ := List.mem_map.mp hothers
    obtain ⟨name, rest, other, rfl, hentry, -⟩ := (mem_filesOfEntries_iff hentries).mp hmem
    obtain ⟨rfl, -⟩ := List.cons.inj heq
    exact hfirst (List.mem_map.mpr ⟨_, hentry, rfl⟩)

end

end Tree

end Screenplay
