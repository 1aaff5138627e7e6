/-
Following paths.

A path is followed piece by piece, and a name behind it leads one folder further.

* `find_eq_ok_iff`: what lies at a path;
* `follow_append`: pieces are followed one after the other;
* `find_join`: a name behind the path of a folder leads to the entry of that name;
* `readText_of_find`: which text is read at a path.
-/
import Screenplay.Proofs.Files.Tree

namespace Screenplay.Disk

open Screenplay.Tree

variable {disk : Disk} {root : Tree Content} {path folder name : String}
  {here there names : List String}

theorem find_eq_ok_iff {tree : Tree Content} :
    disk.find path = .ok tree ↔ ∃ here pieces names, disk.start path = .ok (here, pieces) ∧
      follow disk.root here pieces = .ok names ∧ disk.root.descendant? names = some tree := by
  rw [find]
  cases hstart : disk.start path with
  | error error => simp [bind, Except.bind]
  | ok start =>
    obtain ⟨here, pieces⟩ := start
    simp only [bind, Except.bind]
    cases hfollow : follow disk.root here pieces with
    | error error => simp [hfollow]
    | ok names =>
      cases hnames : disk.root.descendant? names with
      | none => simp [hnames, hfollow]
      | some found => simp [hnames, hfollow]

/-- Pieces are followed one after the other. -/
theorem follow_append (root : Tree Content) (here pieces more : List String) :
    follow root here (pieces ++ more) =
      (follow root here pieces).bind fun there => follow root there more := by
  induction pieces generalizing here with
  | nil => rfl
  | cons piece pieces ih =>
    simp only [List.cons_append, follow]
    cases root.descendant? here with
    | none => rfl
    | some tree =>
      cases tree with
      | file content => rfl
      | folder entries =>
        dsimp only
        split_ifs
        · exact ih _
        · exact ih _
        · rfl
        · exact ih _
        · rfl

/-- A name is followed to its entry. -/
theorem follow_name {entries : List (String × Tree Content)}
    (hhere : root.descendant? here = some (.folder entries)) (hname : IsFileName name)
    (hentry : (entries.lookup name).isSome) : follow root here [name] = .ok (here ++ [name]) := by
  obtain ⟨hempty, hdot, hback⟩ := hname.isName
  have hshort : ¬maxName < name.utf8ByteSize := Nat.not_lt.mpr hname.short
  simp [follow, hhere, hempty, hdot, hback, hshort, hentry]

/-- An empty piece leads nowhere. -/
theorem eq_of_follow_empty (h : follow root here [""] = .ok there) : there = here := by
  cases hhere : root.descendant? here with
  | none => simp [follow, hhere] at h
  | some tree =>
    cases tree with
    | file content => simp [follow, hhere] at h
    | folder entries => simpa [follow, hhere] using h.symm

theorem start_eq_ok_iff {pieces : List String} :
    disk.start path = .ok (here, pieces) ↔
      '\x00' ∉ path.toList ∧ path ≠ "" ∧ path.utf8ByteSize ≤ maxPath ∧
        here = (if Path.isAbsolute path then [] else disk.home) ∧
        pieces = Path.slashPieces path := by
  unfold start
  by_cases hnul : '\x00' ∈ path.toList
  · simp [hnul]
  by_cases hempty : path = ""
  · simp [hempty]
  rw [if_neg hnul, if_neg hempty]
  by_cases hlong : maxPath < path.utf8ByteSize
  · rw [if_pos hlong]
    simp [Nat.not_le.mpr hlong]
  · rw [if_neg hlong]
    simp only [Except.ok.injEq, Prod.mk.injEq, hnul, hempty, Nat.not_lt.mp hlong,
      not_false_eq_true, ne_eq, true_and, eq_comm]

/-- A name can stand below any folder. -/
theorem isBelow_name (hname : IsFileName name) : Path.IsBelow name := by
  refine ⟨decide_eq_false fun hhead => hname.noSlash (List.mem_of_head? hhead), ?_⟩
  rw [Path.slashPieces_of_not_mem hname.noSlash]
  simpa using hname.isName.2.1

/-- A name behind the path of a folder leads to the entry of that name. -/
theorem find_join {entries : List (String × Tree Content)} {tree : Tree Content}
    (hfolder : disk.find folder = .ok (.folder entries)) (hname : IsFileName name)
    (hentry : entries.lookup name = some tree)
    (hshort : (Path.join folder name).utf8ByteSize ≤ maxPath) :
    disk.find (Path.join folder name) = .ok tree := by
  obtain ⟨here, pieces, there, hstart, hfollow, hthere⟩ := find_eq_ok_iff.mp hfolder
  obtain ⟨hnul, hne, -, rfl, rfl⟩ := start_eq_ok_iff.mp hstart
  have hbelow := isBelow_name hname
  obtain ⟨front, hjoin, hfront⟩ := Path.exists_join_eq hbelow.relative hne
  -- a slash at the end of the path is a further piece, but leads nowhere
  have hreached : follow disk.root (if Path.isAbsolute folder then [] else disk.home)
      (Path.slashPieces front) = .ok there := by
    rcases hfront with rfl | rfl
    · exact hfollow
    · have hpieces := Path.slashPieces_append front ""
      rw [String.append_empty] at hpieces
      rw [hpieces, follow_append] at hfollow
      cases hfirst : follow disk.root (if Path.isAbsolute (front ++ "/") then [] else disk.home)
          (Path.slashPieces front) with
      | error error =>
        rw [hfirst] at hfollow
        exact absurd hfollow (by simp [Except.bind])
      | ok first =>
        rw [hfirst] at hfollow
        rw [eq_of_follow_empty hfollow]
  have hlast : disk.root.descendant? (there ++ [name]) = some tree := by
    simp [descendant?_append, hthere, descendant?_cons, child?, hentry]
  have hfrontNul : '\x00' ∉ front.toList := by
    rcases hfront with rfl | rfl
    · exact hnul
    · exact fun hmem => hnul (by simp [String.toList_append, hmem])
  refine find_eq_ok_iff.mpr ⟨_, _, there ++ [name], start_eq_ok_iff.mpr ⟨?_, ?_, hshort, rfl, rfl⟩,
    ?_, hlast⟩
  · simp [hjoin, String.toList_append, hfrontNul, hname.noNul]
  · intro hempty
    have hcs := congrArg String.toList (hjoin ▸ hempty)
    simp [String.toList_append] at hcs
  · rw [Path.isAbsolute_join hbelow, hjoin, Path.slashPieces_append,
      Path.slashPieces_of_not_mem hname.noSlash, follow_append, hreached]
    exact follow_name hthere hname (by simp [hentry])

theorem readText_of_find {text : String} (h : disk.find path = .ok (.file (.text text))) :
    disk.readText path = .ok text := by
  rw [readText, h]
  rfl

theorem survey_of_find {entries : List (String × Tree Content)}
    (h : disk.find path = .ok (.folder entries)) :
    disk.survey path = .ok (shape (.folder entries)) := by
  rw [survey, h]
  rfl

end Screenplay.Disk
