/-
What holds of a registry at all times.

Files are compiled into one registry, and a file that has a fault leaves behind what it declared
before.  Whatever has been compiled, the taken titles are those of the items and no two items share
a title or a path; and a section that is being read knows the place of its own item.

* `IsSound.add`, `IsSound.attach`: what a further item and an event keep;
* `isSound_next?`: what one line keeps; `isSound_after?`: what some lines keep;
* `IsSound.compileText`: what a file keeps, with a fault or without;
* `isSound_compileAll_empty`: what any number of files keep.
-/
import Screenplay.Proofs.File.Reading
import Screenplay.Proofs.File.Target

namespace Screenplay

/-- What holds of an item at all times. -/
structure Item.IsSound (item : Item) : Prop where
  path : PathNames item.title item.path
  /-- The item of a section has a title without slashes, which its path is made from. -/
  compiled : item.kind = .compiled →
    '/' ∉ item.title.toList ∧ item.path = "./patches/" ++ item.title ++ ".json"
  event : item.event.isSome → item.kind = .compiled

/-- What holds of a registry at all times. -/
structure Registry.IsSound (registry : Registry) : Prop where
  taken : ∀ title, title ∈ registry.titles ↔ title ∈ registry.items.map Item.title
  titles : (registry.items.map Item.title).Nodup
  items : ∀ item ∈ registry.items, item.IsSound

/-- Whether a section, if it is not ignored, knows the place of its own item. -/
def Section.KnowsItem (current : Section) (registry : Registry) : Prop :=
  ∀ place ∈ current.item, ∃ item, registry.items[place]? = some item ∧
    item.kind = .compiled ∧ item.title = current.title

namespace Item

theorem isSound_fragment {text : String} {kind : DirectiveKind} {target : Target}
    (h : FileLine.ofText text = .directive kind target) :
    IsSound ⟨kind.itemKind, target.filename, target.path, none⟩ := by
  refine ⟨pathNames_target h, fun hkind => ?_, by simp⟩
  cases kind <;> exact absurd hkind (by simp [DirectiveKind.itemKind])

theorem isSound_compiled (name : String) :
    IsSound
      ⟨.compiled, replaceChar '/' '.' name, patchesPath (replaceChar '/' '.' name), none⟩ := by
  have hslash : '/' ∉ (replaceChar '/' '.' name).toList := not_mem_replaceChar (by decide) name
  exact ⟨pathNames_patchesPath hslash, fun _ => ⟨hslash, rfl⟩, by simp⟩

end Item

namespace Registry

theorem isSound_empty : IsSound {} := ⟨by simp, List.nodup_nil, by simp⟩

/-- Paths name titles, so different titles have different paths. -/
theorem IsSound.nodup_paths {registry : Registry} (h : registry.IsSound) :
    (registry.items.map Item.path).Nodup := by
  have htitles := List.pairwise_map.mp h.titles
  refine List.pairwise_map.mpr (htitles.imp_of_mem ?_)
  intro item other hitem hother hne hpath
  have hnames := (h.items item hitem).path
  rw [hpath] at hnames
  exact hne (hnames.title_eq (h.items other hother).path)

theorem IsSound.add {registry : Registry} (h : registry.IsSound) {item : Item}
    (htitle : item.title ∉ registry.titles) (hitem : item.IsSound) :
    (registry.add [item]).IsSound := by
  refine ⟨fun title => ?_, ?_, ?_⟩
  · simp only [Registry.add, List.map_append, List.mem_append, List.mem_reverse, h.taken title]
    exact or_comm
  · rw [h.taken] at htitle
    simp only [Registry.add, List.map_append, List.map_singleton]
    refine List.nodup_append.mpr ⟨h.titles, by simp, ?_⟩
    rintro title hmem _ hlast rfl
    rw [List.mem_singleton] at hlast
    exact htitle (hlast ▸ hmem)
  · intro other hother
    rcases List.mem_append.mp hother with hother | hother
    · exact h.items other hother
    · exact List.mem_singleton.mp hother ▸ hitem

/-- An item that gets its event is otherwise as before. -/
theorem getElem?_attach (registry : Registry) (place i : Nat) (event : Event) :
    (registry.attach place event).items[i]? =
      registry.items[i]?.map fun item =>
        { item with event := if place = i then some event else item.event } := by
  rw [attach, List.getElem?_modify]
  by_cases h : place = i
  · simp only [if_pos h, Option.map_eq_map]
  · simp only [if_neg h, Option.map_eq_map]

theorem map_title_attach (registry : Registry) (place : Nat) (event : Event) :
    (registry.attach place event).items.map Item.title = registry.items.map Item.title := by
  refine List.ext_getElem? fun i => ?_
  rw [List.getElem?_map, List.getElem?_map, getElem?_attach, Option.map_map]
  rfl

theorem IsSound.attach {registry : Registry} (h : registry.IsSound) {place : Nat}
    (hplace : ∀ item, registry.items[place]? = some item → item.kind = .compiled)
    (event : Event) : (registry.attach place event).IsSound := by
  refine ⟨fun title => ?_, ?_, fun other hother => ?_⟩
  · rw [map_title_attach]
    exact h.taken title
  · rw [map_title_attach]
    exact h.titles
  · obtain ⟨i, hi⟩ := List.mem_iff_getElem?.mp hother
    rw [getElem?_attach, Option.map_eq_some_iff] at hi
    obtain ⟨item, hitem, rfl⟩ := hi
    have hsound := h.items item (List.mem_of_getElem? hitem)
    refine ⟨hsound.path, hsound.compiled, ?_⟩
    by_cases hi : place = i
    · exact fun _ => hplace item (hi ▸ hitem)
    · simpa only [if_neg hi] using hsound.event

end Registry

namespace Section

variable {current : Section} {registry : Registry}

theorem KnowsItem.add (h : current.KnowsItem registry) (items : List Item) :
    current.KnowsItem (registry.add items) := by
  intro place hplace
  obtain ⟨item, hitem, hkind⟩ := h place hplace
  have hlt : place < registry.items.length := (List.getElem?_eq_some_iff.mp hitem).1
  refine ⟨item, ?_, hkind⟩
  rw [Registry.add, List.getElem?_append_left hlt, hitem]

theorem knowsItem_new (registry : Registry) (title path : String) (lines : List SourceLine) :
    KnowsItem ⟨title, some registry.items.length, lines⟩
      (registry.add [⟨.compiled, title, path, none⟩]) := by
  rintro place ⟨⟩
  exact ⟨⟨.compiled, title, path, none⟩, by simp [Registry.add], rfl, rfl⟩

end Section

/-! ### What a line keeps -/

namespace Reading

variable {cast : Cast} {items : List Item} {reading later : Reading} {line : SourceLine}

/-- What holds at all times while a file is read: `items` are those that were there before. -/
structure IsSound (items : List Item) (reading : Reading) : Prop where
  registry : reading.registry.IsSound
  kept : items <+: reading.registry.items
  opened : ∀ current ∈ reading.opened, current.KnowsItem reading.registry
  /-- The section that is open got its item in this file. -/
  own : ∀ current ∈ reading.opened, ∀ place ∈ current.item, items.length ≤ place

/-- What holds of a registry while a file is read. -/
structure Keeps (items : List Item) (registry : Registry) : Prop where
  sound : registry.IsSound
  kept : items <+: registry.items

theorem IsSound.keeps (h : reading.IsSound items) : Keeps items reading.registry :=
  ⟨h.registry, h.kept⟩

theorem Keeps.add {registry : Registry} (h : Keeps items registry) {item : Item}
    (htitle : item.title ∉ registry.titles) (hitem : item.IsSound) :
    Keeps items (registry.add [item]) :=
  ⟨h.sound.add htitle hitem, h.kept.trans (List.prefix_append ..)⟩

/-- An event goes to an item that this file has declared. -/
theorem Keeps.attach {registry : Registry} (h : Keeps items registry) {place : Nat}
    (hplace : ∀ item, registry.items[place]? = some item → item.kind = .compiled)
    (hown : items.length ≤ place) (event : Event) : Keeps items (registry.attach place event) := by
  refine ⟨h.sound.attach hplace event, List.prefix_iff_getElem?.mpr fun i hi => ?_⟩
  have hne : place ≠ i := by omega
  rw [Registry.getElem?_attach, List.prefix_iff_getElem?.mp h.kept i hi]
  simp [hne]

theorem Keeps.declared {registry : Registry} (h : Keeps items registry) {kind : ItemKind}
    {title path : String} (hitem : Item.IsSound ⟨kind, title, path, none⟩) :
    Keeps items (registry.declared kind title path).registry := by
  by_cases htitle : title ∈ registry.titles
  · rw [Registry.declared_of_mem htitle]
    exact h
  · rw [Registry.declared_of_not_mem htitle]
    exact h.add htitle hitem

theorem keeps_finish (h : reading.IsSound items) : Keeps items (reading.finish cast).registry := by
  unfold finish Section.finish
  split
  · next title place line lines hopened =>
    dsimp only
    split
    · refine h.keeps.attach ?_ (h.own _ hopened place rfl) _
      intro item hitem
      obtain ⟨other, hother, hkind, -⟩ := h.opened _ hopened place rfl
      obtain rfl : other = item := Option.some.inj (hother.symm.trans hitem)
      exact hkind
    · exact h.keeps
  · exact h.keeps

/-- What becomes of a line, with a fault or without. -/
theorem keeps_outcome (h : reading.IsSound items) :
    Keeps items (reading.outcome cast line).registry := by
  unfold outcome
  split
  · next kind target hform => exact h.keeps.declared (Item.isSound_fragment hform)
  · next name ignored hform =>
    have hfinish : Keeps items (reading.finish cast).registry := keeps_finish h
    rw [finish] at hfinish
    cases hfault : (Section.finish cast reading.registry reading.opened).fault with
    | some fault =>
      rw [FileOutcome.andThen_of_some hfault]
      exact hfinish
    | none =>
      rw [FileOutcome.andThen_of_none hfault]
      cases ignored with
      | true => exact hfinish
      | false => exact hfinish.declared (Item.isSound_compiled name)
  · split <;> exact h.keeps

/-- A section that is open below a line knows its item, which this file has declared. -/
theorem knowsItem_below (h : reading.IsSound items)
    (hfault : (reading.outcome cast line).fault = none) :
    ∀ current ∈ reading.below line,
      current.KnowsItem (reading.outcome cast line).registry ∧
        ∀ place ∈ current.item, items.length ≤ place := by
  unfold outcome at hfault ⊢
  unfold below
  cases hform : line.fileForm with
  | directive kind target =>
    intro current hcurrent
    refine ⟨?_, h.own current hcurrent⟩
    simp only [hform] at hfault
    by_cases htitle : target.filename ∈ reading.registry.titles
    · rw [Registry.declared_of_mem htitle] at hfault
      exact absurd hfault (by simp)
    · simp only [Registry.declared_of_not_mem htitle]
      exact (h.opened current hcurrent).add _
  | title name ignored =>
    rintro current ⟨⟩
    cases ignored with
    | true => simp [Section.KnowsItem]
    | false =>
      simp only [hform, Bool.false_eq_true, if_false, Option.mem_def, Option.some.injEq] at hfault ⊢
      -- the title is taken behind the section above it, in a registry with as many items
      have hlength := Section.length_finish cast reading.registry reading.opened
      rw [← hlength]
      generalize Section.finish cast reading.registry reading.opened = finished at hfault hlength ⊢
      cases hfinished : finished.fault with
      | some fault =>
        rw [FileOutcome.andThen_of_some hfinished, hfinished] at hfault
        exact absurd hfault (by simp)
      | none =>
        rw [FileOutcome.andThen_of_none hfinished] at hfault ⊢
        by_cases htitle : replaceChar '/' '.' name ∈ finished.registry.titles
        · rw [Registry.declared_of_mem htitle] at hfault
          exact absurd hfault (by simp)
        · rw [Registry.declared_of_not_mem htitle]
          refine ⟨Section.knowsItem_new _ _ _ _, ?_⟩
          rintro place rfl
          rw [hlength]
          exact h.kept.length_le
  | content =>
    intro current hcurrent
    cases hopened : reading.opened with
    | none => exact absurd hcurrent (by simp [hopened])
    | some before =>
      obtain rfl : before.push line = current := by simpa [hopened] using hcurrent
      exact ⟨h.opened before hopened, h.own before hopened⟩

/-- **One line** keeps what holds while a file is read. -/
theorem isSound_next? (h : reading.IsSound items) (hnext : reading.next? cast line = some later) :
    later.IsSound items := by
  obtain ⟨hfault, rfl⟩ := next?_eq_some_iff.mp hnext
  have hkeeps : Keeps items (reading.outcome cast line).registry := keeps_outcome h
  have hbelow := knowsItem_below h hfault
  exact ⟨hkeeps.sound, hkeeps.kept, fun current hcurrent => (hbelow current hcurrent).1,
    fun current hcurrent => (hbelow current hcurrent).2⟩

theorem isSound_after? {lines : List SourceLine} (h : reading.IsSound items)
    (hafter : reading.after? cast lines = some later) : later.IsSound items := by
  induction lines generalizing reading with
  | nil =>
    obtain rfl : reading = later := Option.some.inj hafter
    exact h
  | cons line lines ih =>
    rw [after?_cons, Option.bind_eq_some_iff] at hafter
    obtain ⟨next, hnext, hrest⟩ := hafter
    exact ih (isSound_next? h hnext) hrest

/-- What a file leaves behind, with a fault or without. -/
theorem keeps_compile (lines : List SourceLine) (h : reading.IsSound items) :
    Keeps items (reading.compile cast lines).registry := by
  have hstop := exists_stop cast reading lines
  generalize (reading.compile cast lines).registry = registry at hstop ⊢
  generalize (reading.compile cast lines).fault = fault at hstop
  cases hstop with
  | early hlines hfront hfault => exact keeps_outcome (isSound_after? h hfront)
  | late hlines => exact keeps_finish (isSound_after? h hlines)

end Reading

/-! ### Any number of files -/

namespace Registry

open Reading

variable {registry : Registry}

/-- At the beginning of a file no section is open. -/
theorem IsSound.reading (h : registry.IsSound) :
    Reading.IsSound registry.items { registry } :=
  ⟨h, List.prefix_refl _, by simp, by simp⟩

theorem IsSound.compileText (h : registry.IsSound) (cast : Cast) (text : String) :
    Keeps registry.items (registry.compileText cast text).registry :=
  keeps_compile (sourceLines text) h.reading

/-- Compiles texts into one registry, each with its cast, and goes on behind a fault. -/
def compileAll (registry : Registry) (texts : List (Cast × String)) : Registry :=
  texts.foldl (fun registry (cast, text) => (registry.compileText cast text).registry) registry

theorem IsSound.compileAll (h : registry.IsSound) (texts : List (Cast × String)) :
    (registry.compileAll texts).IsSound := by
  induction texts generalizing registry with
  | nil => exact h
  | cons file texts ih => exact ih (h.compileText file.1 file.2).sound

/-- **The registry at all times.**  Whatever texts have been compiled, with faults or without, the
registry is sound.  Compiling a further text leaves its items as they are, in front of those of the
text; and at every point of that text that is reached, the reading is taken up from the registry
and the open section there, and the section, if it is not ignored, knows its own item. -/
theorem isSound_compileAll_empty (texts : List (Cast × String)) :
    let registry := compileAll {} texts
    registry.IsSound ∧ (registry.items.map Item.path).Nodup ∧
      ∀ cast text,
        registry.items <+: (registry.compileText cast text).registry.items ∧
        ∀ front back, sourceLines text = front ++ back →
          ∀ reached, Reading.after? cast { registry } front = some reached →
            (registry.compileText cast text).registry = (reached.compile cast back).registry ∧
            (registry.compileText cast text).fault = (reached.compile cast back).fault ∧
            ∀ current ∈ reached.opened, current.KnowsItem reached.registry := by
  intro registry
  have hsound : registry.IsSound := isSound_empty.compileAll texts
  refine ⟨hsound, hsound.nodup_paths, fun cast text => ⟨(hsound.compileText cast text).kept, ?_⟩⟩
  intro front back hlines reached hreached
  have hresume := compile_append hreached back
  rw [← hlines] at hresume
  exact ⟨hresume.1, hresume.2, (isSound_after? hsound.reading hreached).opened⟩

/-- The registry that a fault in the second section has left, and a section of a further text that
knows the item behind it. -/
theorem isSound_compileAll_behind_fault :
    let registry : Registry := compileAll {} [(.empty, "import x\n== a/b ==\nmessage 1\nendif")]
    let fragment : Item := ⟨.imported, "x", "./patches/x.json", none⟩
    let unfinished : Item := ⟨.compiled, "a.b", "./patches/a.b.json", none⟩
    let next : Item := ⟨.compiled, "c", "./patches/c.json", none⟩
    registry = ⟨[fragment, unfinished], ["a.b", "x"]⟩ ∧
      sourceLines "== c ==\nset y = 1" = [⟨1, "== c =="⟩] ++ [⟨2, "set y = 1"⟩] ∧
      Reading.after? .empty { registry } [⟨1, "== c =="⟩] =
        some ⟨⟨[fragment, unfinished, next], ["c", "a.b", "x"]⟩, some ⟨"c", some 2, []⟩⟩ ∧
      registry.IsSound ∧
      Section.KnowsItem ⟨"c", some 2, []⟩
        ⟨[fragment, unfinished, next], ["c", "a.b", "x"]⟩ := by
  have hregistry : compileAll {} [(.empty, "import x\n== a/b ==\nmessage 1\nendif")] =
      ⟨[⟨.imported, "x", "./patches/x.json", none⟩,
        ⟨.compiled, "a.b", "./patches/a.b.json", none⟩], ["a.b", "x"]⟩ := by rfl
  have hlines : sourceLines "== c ==\nset y = 1" = [⟨1, "== c =="⟩] ++ [⟨2, "set y = 1"⟩] := by
    rfl
  have hsound := isSound_compileAll_empty [(.empty, "import x\n== a/b ==\nmessage 1\nendif")]
  rw [hregistry] at hsound ⊢
  have hsection := (hsound.2.2 .empty "== c ==\nset y = 1").2 _ _ hlines _ rfl
  exact ⟨rfl, hlines, rfl, hsound.1, hsection.2.2 _ rfl⟩

end Registry

end Screenplay
