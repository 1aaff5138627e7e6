/-
Where a path leads.

A path is followed part by part: `.` stays in a folder, `..` goes back to the one around it, and any
other part is an entry of the folder.  `resolve` follows a path as far as its text tells.

* `slashPieces_append`, `parts_append_slash`: a slash parts the pieces and the parts of a path;
* `parts_join`: joining a path to a folder puts its parts behind those of the folder;
* `resolve_of_parts_concat`: the last part of a path, unless it is a mark, is the last one of where
  the path leads;
* `resolve_ne`: so paths that end in different names lead to different places.
-/
import Screenplay.Path

namespace Screenplay.Path

open Text

/-- Whether a part of a path names an entry of a folder. -/
def IsName (part : String) : Prop := part ≠ "" ∧ part ≠ "." ∧ part ≠ ".."

/-- The folder that is reached from another one by a part.  A relative path that goes back behind
its start keeps the marks; there is nothing behind the root. -/
def reach (absolute : Bool) (folder : List String) (part : String) : List String :=
  if part = "." then folder
  else if part = ".." then
    match folder.getLast? with
    | none => if absolute then [] else [".."]
    | some last => if last = ".." then folder ++ [".."] else folder.dropLast
  else folder ++ [part]

/-- Where a path leads, from the root or from where the path starts. -/
def resolve (path : String) : List String :=
  (parts path).foldl (reach (isAbsolute path)) []

/-- Whether a piece of a path counts, wherever it stands. -/
def counts (piece : String) : Bool := piece ≠ "" ∧ piece ≠ "."

/-! ### Pieces and parts -/

theorem slashPieces_append (front back : String) :
    slashPieces (front ++ "/" ++ back) = slashPieces front ++ slashPieces back := by
  have hcs : (front ++ "/" ++ back).toList = front.toList ++ '/' :: back.toList := by
    rw [String.toList_append, String.toList_append, List.append_assoc]
    rfl
  rw [slashPieces, hcs, pieces_append_separator, List.map_append]
  rfl

/-- A path without a slash is a single piece. -/
theorem slashPieces_of_not_mem {path : String} (h : '/' ∉ path.toList) :
    slashPieces path = [path] := by
  rw [slashPieces, pieces_of_not_mem h, List.map_singleton, String.ofList_toList]

theorem slashPieces_ne_nil (path : String) : slashPieces path ≠ [] := by
  rw [slashPieces, ne_eq, List.map_eq_nil_iff]
  exact pieces_ne_nil '/' path.toList

/-- Only at the very start does the part `.` count. -/
theorem parts_eq {path first : String} {rest : List String}
    (h : slashPieces path = first :: rest) :
    parts path = (if first = "." ∨ counts first then [first] else []) ++ rest.filter counts := by
  unfold parts
  rw [h]
  dsimp only
  split
  · next heq =>
    obtain ⟨rfl, rfl⟩ := List.cons.inj heq
    rfl
  · next hdot =>
    have hfirst : first ≠ "." := by
      rintro rfl
      exact hdot rest rfl
    show (first :: rest).filter counts = _
    rw [List.filter_cons]
    simp only [hfirst, false_or]
    split <;> rfl

theorem parts_append_slash (front back : String) :
    parts (front ++ "/" ++ back) = parts front ++ (slashPieces back).filter counts := by
  obtain ⟨first, rest, hfront⟩ := List.exists_cons_of_ne_nil (slashPieces_ne_nil front)
  have hall : slashPieces (front ++ "/" ++ back) = first :: (rest ++ slashPieces back) := by
    rw [slashPieces_append, hfront, List.cons_append]
  rw [parts_eq hfront, parts_eq hall, List.filter_append, List.append_assoc]

/-! ### Joining -/

/-- A path below a folder: relative, and without a mark for its own start. -/
structure IsBelow (path : String) : Prop where
  relative : isAbsolute path = false
  start : (slashPieces path).head? ≠ some "."

theorem parts_of_isBelow {path : String} (h : IsBelow path) :
    parts path = (slashPieces path).filter counts := by
  obtain ⟨first, rest, hpath⟩ := List.exists_cons_of_ne_nil (slashPieces_ne_nil path)
  have hfirst : first ≠ "." := by
    rintro rfl
    exact h.start (by rw [hpath]; rfl)
  rw [parts_eq hpath, hpath, List.filter_cons]
  simp only [hfirst, false_or]
  split <;> rfl

/-- Joining puts a slash between a folder and a path, if none is there. -/
theorem exists_join_eq {base path : String} (h : isAbsolute path = false) (hbase : base ≠ "") :
    ∃ folder, join base path = folder ++ "/" ++ path ∧ (base = folder ∨ base = folder ++ "/") := by
  have hjoin : ¬(isAbsolute path = true ∨ base = "") := by simp [h, hbase]
  rw [join, if_neg hjoin]
  by_cases hlast : base.toList.getLast? = some '/'
  · obtain ⟨front, hfront⟩ := List.getLast?_eq_some_iff.mp hlast
    have hcut : base = String.ofList front ++ "/" := by
      refine String.toList_injective ?_
      rw [hfront, String.toList_append, String.toList_ofList]
      rfl
    exact ⟨String.ofList front, by rw [if_pos hlast, hcut], .inr hcut⟩
  · exact ⟨base, by rw [if_neg hlast], .inl rfl⟩

theorem join_eq {base path : String} (h : isAbsolute path = false) (hbase : base ≠ "") :
    ∃ folder, join base path = folder ++ "/" ++ path ∧ parts base = parts folder := by
  obtain ⟨folder, hjoin, rfl | rfl⟩ := exists_join_eq h hbase
  · exact ⟨base, hjoin, rfl⟩
  · -- behind the slash stands an empty piece, which does not count
    have hnothing : (slashPieces "").filter counts = [] := rfl
    have hparts := parts_append_slash folder ""
    rw [hnothing, List.append_nil, String.append_empty] at hparts
    exact ⟨folder, hjoin, hparts⟩

theorem parts_join {path : String} (h : IsBelow path) (base : String) :
    parts (join base path) = parts base ++ parts path := by
  by_cases hbase : base = ""
  · subst hbase
    have hjoin : join "" path = path := by simp [join]
    rw [hjoin]
    rfl
  · obtain ⟨folder, hjoin, hparts⟩ := join_eq h.relative hbase
    rw [hjoin, parts_append_slash, hparts, parts_of_isBelow h]

theorem isAbsolute_join {path : String} (h : IsBelow path) (base : String) :
    isAbsolute (join base path) = isAbsolute base := by
  by_cases hbase : base = ""
  · subst hbase
    have hjoin : join "" path = path := by simp [join]
    rw [hjoin, h.relative]
    rfl
  · have hne : base.toList ≠ [] := by simpa using hbase
    obtain ⟨c, cs, hcs⟩ := List.exists_cons_of_ne_nil hne
    have hjoin : ¬(isAbsolute path = true ∨ base = "") := by simp [h.relative, hbase]
    rw [join, if_neg hjoin, isAbsolute, isAbsolute]
    split <;> simp [String.toList_append, hcs]

/-! ### Where paths lead -/

/-- A name is entered last. -/
theorem resolve_of_parts_concat {path name : String} {front : List String}
    (h : parts path = front ++ [name]) (hname : IsName name) :
    resolve path = front.foldl (reach (isAbsolute path)) [] ++ [name] := by
  rw [resolve, h, List.foldl_append, List.foldl_cons, List.foldl_nil, reach, if_neg hname.2.1,
    if_neg hname.2.2]

theorem getLast?_resolve {path name : String} (h : (parts path).getLast? = some name)
    (hname : IsName name) : (resolve path).getLast? = some name := by
  obtain ⟨front, hfront⟩ := List.getLast?_eq_some_iff.mp h
  rw [resolve_of_parts_concat hfront hname, List.getLast?_concat]

/-- Paths that end in different names lead to different places. -/
theorem resolve_ne {path other name name' : String} (h : (parts path).getLast? = some name)
    (h' : (parts other).getLast? = some name') (hname : IsName name) (hname' : IsName name')
    (hne : name ≠ name') : resolve path ≠ resolve other := by
  intro heq
  have hlast := getLast?_resolve h hname
  rw [heq, getLast?_resolve h' hname'] at hlast
  exact hne (Option.some.inj hlast).symm

/-- A name below a folder is an entry of the folder, wherever that one is. -/
theorem resolve_join_concat {path folder name : String} (h : IsBelow path)
    (hfolder : IsBelow folder) (hparts : parts path = parts folder ++ [name])
    (hname : IsName name) (base : String) :
    resolve (join base path) = resolve (join base folder) ++ [name] := by
  have hall : parts (join base path) = parts (join base folder) ++ [name] := by
    rw [parts_join h, parts_join hfolder, hparts, List.append_assoc]
  rw [resolve_of_parts_concat hall hname, resolve, isAbsolute_join h, isAbsolute_join hfolder]

end Screenplay.Path
