import WorkloadIdentity.FileSystem
import WorkloadIdentity.Proofs.Fallible

/-!
Where a path leads. The place is settled by the names of the path alone; the file system only
decides whether the way there is open. So two file systems agree on a path where they agree on
the directories of the way and on its end.
-/

namespace WorkloadIdentity

/-- The place that a path names, whatever is there. -/
def Path.place (path : Path) : Place :=
  (Path.names path).foldl Place.child ⟨Path.isAbsolute path, []⟩

/-- The path of some names. -/
def Path.ofNames (absolute : Bool) (parts : List String) : Path :=
  if absolute then "/" ++ "/".intercalate parts else "/".intercalate parts

theorem Place.child_extends {start : Place} {name : String} (h : name ≠ "..") :
    (start.child name).absolute = start.absolute ∧ start.names <+: (start.child name).names := by
  unfold Place.child
  rw [if_neg h]
  split
  · exact ⟨rfl, List.prefix_refl _⟩
  · exact ⟨rfl, List.prefix_append _ _⟩

/-- Names that never go up lead further down. -/
theorem Place.foldl_child_extends {start : Place} {names : List String} (h : ".." ∉ names) :
    (names.foldl Place.child start).absolute = start.absolute ∧
      start.names <+: (names.foldl Place.child start).names := by
  induction names generalizing start with
  | nil => exact ⟨rfl, List.prefix_refl _⟩
  | cons name rest ih =>
      obtain ⟨habsolute, hnames⟩ : (start.child name).absolute = start.absolute ∧
          start.names <+: (start.child name).names :=
        Place.child_extends fun hup => h (by simp [hup])
      obtain ⟨hrestAbsolute, hrest⟩ :=
        ih fun hup => h (by simp [hup])
      exact ⟨hrestAbsolute.trans habsolute, hnames.trans hrest⟩

/-- The place that a place lies in; the root and the working directory lie in themselves. -/
def Place.parent (place : Place) : Place := { place with names := place.names.dropLast }

namespace FileSystem

variable {fs grown : FileSystem} {place other : Place}

/-! ### Nodes -/

theorem node?_setNode_ne (h : other ≠ place) (node : Option Node) :
    (fs.setNode place node).node? other = fs.node? other := by
  have hothers : (fs.entries.filter (·.1 != place)).find? (·.1 == other) =
      fs.entries.find? (·.1 == other) := by
    rw [List.find?_filter]
    congr 1
    funext entry
    by_cases hentry : entry.1 = other
    · simp [hentry, h]
    · simp [hentry]
  have hnew : (node.map fun n => (place, n)).toList.find? (·.1 == other) = none := by
    cases node <;> simp [h.symm]
  unfold node? setNode
  simp only [List.find?_append, hnew, hothers, Option.none_or]

theorem node?_setNode_self (h : place.names.all (· == "..") = false) (node : Option Node) :
    (fs.setNode place node).node? place = node := by
  have hothers : (fs.entries.filter (·.1 != place)).find? (·.1 == place) = none := by
    simp [List.find?_filter]
  unfold node? setNode
  cases node with
  | none => simp [h, hothers]
  | some n => simp [h]

theorem node?_of_all_up (fs : FileSystem) (h : place.names.all (· == "..") = true) :
    fs.node? place = some .directory := by
  unfold node?
  rw [h]
  rfl

theorem not_all_up_of_node? (h : fs.node? place ≠ some .directory) :
    place.names.all (· == "..") = false := by
  cases hup : place.names.all (· == "..") with
  | false => rfl
  | true =>
      exact (h (node?_of_all_up fs hup)).elim

@[simp] theorem node?_setObject (fs : FileSystem) (object : Nat) (file : FileObject) :
    (fs.setObject object file).node? place = fs.node? place := rfl

@[simp] theorem object?_setNode (fs : FileSystem) (place : Place) (node : Option Node)
    (object : Nat) : (fs.setNode place node).object? object = fs.object? object := rfl

theorem object?_setObject_ne {object changed : Nat} (h : object ≠ changed) (file : FileObject) :
    (fs.setObject changed file).object? object = fs.object? object :=
  List.getElem?_set_ne h.symm

theorem object?_setObject_self {object : Nat} (h : object < fs.objects.length)
    (file : FileObject) : (fs.setObject object file).object? object = some file :=
  List.getElem?_set_self h

theorem object?_overwrite {object : Nat} {file : FileObject}
    (h : fs.object? object = some file) (data : Bytes) :
    (fs.overwrite object data).object? object =
      some { file with content := data ++ file.content.drop data.length } := by
  have hrange : object < fs.objects.length := (List.getElem?_eq_some_iff.mp h).1
  unfold overwrite
  rw [h]
  exact object?_setObject_self hrange _

@[simp] theorem node?_overwrite (fs : FileSystem) (object : Nat) (data : Bytes) (place : Place) :
    (fs.overwrite object data).node? place = fs.node? place := by
  unfold overwrite
  split <;> rfl

/-! ### The way -/

/-- A way that is open ends where the names say. -/
theorem walk_ok {start found : Place} {names : List String} {node : Option Node}
    (h : fs.walk start names = .ok (found, node)) :
    found = names.foldl Place.child start ∧
      (names ≠ [] → node = fs.node? found) ∧ (names = [] → node = some .directory) := by
  induction names generalizing start with
  | nil =>
      cases h
      exact ⟨rfl, by simp, by simp⟩
  | cons name rest ih =>
      cases rest with
      | nil =>
          unfold walk at h
          split at h
          · cases h
          · cases h
            exact ⟨rfl, by simp, by simp⟩
      | cons next rest =>
          unfold walk at h
          split at h
          · cases h
          · split at h
            · cases h
            · cases h
            · obtain ⟨hplace, hnode, _⟩ := ih h
              exact ⟨hplace, fun _ => hnode (by simp), by simp⟩

/-- A way stays open where its directories stay. -/
theorem walk_of_directories
    (hdirectory : ∀ place, fs.node? place = some .directory →
      grown.node? place = some .directory)
    {start found : Place} {names : List String} {node : Option Node} (hnames : names ≠ [])
    (h : fs.walk start names = .ok (found, node)) :
    grown.walk start names = .ok (found, grown.node? found) := by
  induction names generalizing start with
  | nil => exact (hnames rfl).elim
  | cons name rest ih =>
      cases rest with
      | nil =>
          unfold walk at h ⊢
          split at h
          · cases h
          · next hname =>
              cases h
              rw [if_neg hname]
      | cons next rest =>
          unfold walk at h ⊢
          split at h
          · cases h
          · next hname =>
              rw [if_neg hname]
              split at h
              · cases h
              · cases h
              · next hnode =>
                  rw [hdirectory _ hnode]
                  exact ih (by simp) h

theorem walk_congr (hnode : ∀ place, grown.node? place = fs.node? place) (start : Place)
    (names : List String) : grown.walk start names = fs.walk start names := by
  induction names generalizing start with
  | nil => rfl
  | cons name rest ih =>
      cases rest with
      | nil => simp only [walk, hnode]
      | cons next rest => simp only [walk, hnode, ih]

/-- Where a path leads depends on names alone. -/
theorem locate_congr (hnode : ∀ place, grown.node? place = fs.node? place) (path : Path) :
    grown.locate path = fs.locate path := by
  unfold locate
  rw [walk_congr hnode]

theorem locate_setObject (fs : FileSystem) (object : Nat) (file : FileObject) (path : Path) :
    (fs.setObject object file).locate path = fs.locate path :=
  locate_congr (fun _ => node?_setObject fs object file) path

theorem locate_overwrite (fs : FileSystem) (object : Nat) (data : Bytes) (path : Path) :
    (fs.overwrite object data).locate path = fs.locate path :=
  locate_congr (node?_overwrite fs object data) path

theorem locate_walk {path : Path} {result : Place × Option Node}
    (h : fs.locate path = .ok result) :
    fs.walk ⟨Path.isAbsolute path, []⟩ (Path.names path) = .ok result := by
  unfold locate at h
  split at h
  · cases h
  · split at h
    · cases h
    · split at h
      · cases h
      · cases hwalk : fs.walk ⟨Path.isAbsolute path, []⟩ (Path.names path) with
        | ok found =>
            rw [hwalk] at h
            cases h
            rfl
        | error fault =>
            rw [hwalk] at h
            cases h

/-- Whether a path can be followed at all does not depend on the file system. -/
theorem locate_eq_of_locate {path : Path} {result : Place × Option Node}
    (h : grown.locate path = .ok result) :
    fs.locate path =
      (fs.walk ⟨Path.isAbsolute path, []⟩ (Path.names path)).mapError .system := by
  unfold locate at h ⊢
  split at h
  · cases h
  · next hzero =>
      split at h
      · cases h
      · next hempty =>
          split at h
          · cases h
          · next hlong => rw [if_neg hzero, if_neg hempty, if_neg hlong]

theorem locate_ok {path : Path} {found : Place} {node : Option Node}
    (h : fs.locate path = .ok (found, node)) :
    found = path.place ∧ node = fs.node? path.place := by
  obtain ⟨hplace, hend, hstart⟩ := walk_ok (locate_walk h)
  have hplace : found = path.place := hplace
  refine ⟨hplace, ?_⟩
  rw [← hplace]
  by_cases hnames : Path.names path = []
  · rw [hstart hnames, hplace, Path.place, hnames]
    rfl
  · exact hend hnames

theorem locate_of_directories {path : Path} {found : Place} {node : Option Node}
    (hdirectory : ∀ place, fs.node? place = some .directory →
      grown.node? place = some .directory)
    (h : fs.locate path = .ok (found, node)) :
    grown.locate path = .ok (path.place, grown.node? path.place) := by
  obtain ⟨rfl, _⟩ := locate_ok h
  rw [locate_eq_of_locate h]
  by_cases hnames : Path.names path = []
  · rw [Path.place, hnames]
    rfl
  · rw [walk_of_directories hdirectory hnames (locate_walk h)]
    rfl

theorem lookup_of_locate_none {path : Path} {found : Place}
    (h : fs.locate path = .ok (found, none)) : fs.lookup path = .error (.system .noEntry) := by
  unfold lookup
  rw [h]
  rfl

theorem lookup_of_locate_error {path : Path} {fault : IoFault}
    (h : fs.locate path = .error fault) : fs.lookup path = .error fault := by
  unfold lookup
  rw [h]
  rfl

theorem lookup_of_locate_file {path : Path} {found : Place} {object : Nat}
    (h : fs.locate path = .ok (found, some (.file object))) :
    fs.lookup path =
      if Path.asksDirectory path then .error (.system .notDirectory)
      else .ok (found, .file object) := by
  unfold lookup
  rw [h]
  rfl

theorem lookup_ok {path : Path} {found : Place} {node : Node}
    (h : fs.lookup path = .ok (found, node)) : fs.locate path = .ok (found, some node) := by
  obtain ⟨⟨place, there⟩, hlocate, h⟩ := exists_of_bind_ok h
  rw [hlocate]
  rcases there with _ | _ | object
  · cases h
  · cases h
    rfl
  · dsimp only at h
    split at h
    · cases h
    · cases h
      rfl

end FileSystem

end WorkloadIdentity
