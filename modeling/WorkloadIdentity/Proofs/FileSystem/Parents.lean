import WorkloadIdentity.Proofs.FileSystem.Frame
import WorkloadIdentity.Proofs.Text.Parts

/-!
Which directories are made for a path. They are named by the beginnings of its names, and so none
of them is at the place of a file below, unless a path goes up on the way.
-/

namespace WorkloadIdentity

namespace Path

variable {path : Path} {absolute : Bool} {parts : List String}

/-! ### Names put together -/

/-- A text that can be a name in a path. -/
def IsName (name : String) : Prop := name ≠ "" ∧ '/' ∉ name.toList

theorem isName_of_mem_names {name : String} (h : name ∈ names path) : IsName name := by
  obtain ⟨cs, hcs, rfl⟩ := List.mem_map.mp h
  obtain ⟨hpart, hempty⟩ := List.mem_filter.mp hcs
  rw [IsName, String.toList_ofList]
  refine ⟨?_, Text.not_mem_of_mem_splitOn hpart⟩
  rintro hnil
  have hcs : cs = [] := by simpa using congrArg String.toList hnil
  simp [hcs] at hempty

theorem names_intercalate (h : ∀ part ∈ parts, IsName part) :
    names ("/".intercalate parts) = parts := by
  cases parts with
  | nil => rfl
  | cons first rest =>
      have hchars : ("/".intercalate (first :: rest)).toList =
          ['/'].intercalate ((first :: rest).map String.toList) := String.toList_intercalate
      have hsplit : Text.splitOn '/' ("/".intercalate (first :: rest)).toList =
          (first :: rest).map String.toList := by
        rw [hchars]
        apply Text.splitOn_intercalate (by simp)
        intro part hpart
        obtain ⟨name, hname, rfl⟩ := List.mem_map.mp hpart
        exact (h name hname).2
      have hkept : ((first :: rest).map String.toList).filter (!·.isEmpty) =
          (first :: rest).map String.toList := by
        rw [List.filter_eq_self]
        intro part hpart
        obtain ⟨name, hname, rfl⟩ := List.mem_map.mp hpart
        have hempty := (h name hname).1
        simpa using hempty
      rw [names, hsplit, hkept, List.map_map]
      exact List.map_id'' (fun _ => String.ofList_toList) _

theorem names_slash (text : String) : names ("/" ++ text) = names text := by
  have hchars : ("/" ++ text).toList = '/' :: text.toList := by simp
  unfold names
  rw [hchars, Text.splitOn_cons_self]
  rfl

theorem names_ofNames (absolute : Bool) (h : ∀ part ∈ parts, IsName part) :
    names (ofNames absolute parts) = parts := by
  unfold ofNames
  split
  · rw [names_slash, names_intercalate h]
  · exact names_intercalate h

theorem isAbsolute_ofNames (h : ∀ part ∈ parts, IsName part) :
    isAbsolute (ofNames absolute parts) = absolute := by
  unfold ofNames isAbsolute
  cases absolute with
  | true => simp
  | false =>
      cases parts with
      | nil => rfl
      | cons first rest =>
          -- The path begins with a name, and a name does not begin with a slash.
          obtain ⟨hempty, hslash⟩ := h first (by simp)
          cases hfirst : first.toList with
          | nil => exact (hempty (by simpa using hfirst)).elim
          | cons c cs =>
              have hc : c ≠ '/' := by
                rintro rfl
                exact hslash (by simp [hfirst])
              cases rest <;> simp [String.toList_intercalate, hfirst, hc]

theorem place_ofNames (h : ∀ part ∈ parts, IsName part) :
    (ofNames absolute parts).place = parts.foldl Place.child ⟨absolute, []⟩ := by
  rw [place, names_ofNames absolute h, isAbsolute_ofNames h]

/-! ### The steps of a path -/

theorem steps_sublist (path : Path) : (steps path).Sublist (names path) := by
  unfold steps
  split
  · next rest _ hnames =>
      rw [hnames]
      exact List.filter_sublist.cons_cons "."
  · exact List.filter_sublist

/-- How far down some names lead. -/
def depth (names : List String) : Nat := names.countP (· ≠ ".")

theorem depth_filter (names : List String) : depth (names.filter (· ≠ ".")) = depth names := by
  simp [depth, List.countP_filter]

theorem depth_steps (path : Path) : depth (steps path) = depth (names path) := by
  unfold steps
  split
  · next rest _ hnames =>
      rw [hnames]
      simp [depth, List.countP_filter]
  · exact depth_filter _

theorem steps_cases (path : Path) :
    ∃ rest, (steps path = rest ∨ steps path = "." :: rest) ∧ ∀ name ∈ rest, name ≠ "." := by
  unfold steps
  split
  · exact ⟨_, Or.inr rfl, fun name hname => by simpa using (List.mem_filter.mp hname).2⟩
  · exact ⟨_, Or.inl rfl, fun name hname => by simpa using (List.mem_filter.mp hname).2⟩

/-- The last step leads down, if there is one that does. -/
theorem depth_dropLast_lt (hdown : 0 < depth (names path)) :
    depth (steps path).dropLast < depth (names path) := by
  rw [← depth_steps] at hdown ⊢
  obtain ⟨rest, hsteps, hrest⟩ := steps_cases path
  rcases List.eq_nil_or_concat rest with rfl | ⟨front, last, rfl⟩
  · rcases hsteps with hsteps | hsteps <;> simp [hsteps, depth] at hdown
  · have hlast : last ≠ "." := hrest last (by simp)
    have hshorter (start : List String) (hshape : steps path = start ++ [last]) :
        depth (steps path).dropLast < depth (steps path) := by
      rw [hshape, List.dropLast_concat]
      simp [depth, List.countP_append, hlast]
    rcases hsteps with hsteps | hsteps
    · exact hshorter front (by simpa using hsteps)
    · exact hshorter ("." :: front) (by simpa using hsteps)

theorem depth_foldl_child (start : Place) {names : List String} (h : ".." ∉ names) :
    (names.foldl Place.child start).names.length = start.names.length + depth names := by
  induction names generalizing start with
  | nil => rfl
  | cons name rest ih =>
      have hname : name ≠ ".." := fun hup => h (by simp [hup])
      rw [List.foldl_cons, ih _ fun hrest => h (by simp [hrest])]
      unfold Place.child depth
      rw [if_neg hname, List.countP_cons]
      by_cases hstay : name = "."
      · simp [hstay]
      · simp [hstay]
        omega

theorem parent?_eq {parent : Path} (h : parent? path = some parent) :
    parent = ofNames (isAbsolute path) (steps path).dropLast := by
  unfold parent? at h
  split at h
  · cases h
  · exact (Option.some.inj h).symm

end Path

namespace FileSystem

variable {fs grown : FileSystem} {path : Path} {absolute : Bool} {steps : List String}

theorem makeDirectory_node? (h : fs.makeDirectory path = .ok grown) {other : Place}
    (hother : other ≠ path.place) : grown.node? other = fs.node? other := by
  obtain ⟨⟨found, node⟩, hlocate, h⟩ := exists_of_bind_ok h
  obtain ⟨rfl, _⟩ := locate_ok hlocate
  cases node with
  | none =>
      cases h
      exact node?_setNode_ne hother _
  | some node => cases h

/-- Directories are made only at beginnings of the way. -/
theorem makeSteps_node? (hsteps : ∀ name ∈ steps, Path.IsName name)
    (h : fs.makeSteps absolute steps = .ok grown) {other : Place}
    (hother : ∀ front, front <+: steps.reverse → other ≠ front.foldl Place.child ⟨absolute, []⟩) :
    grown.node? other = fs.node? other := by
  induction steps generalizing fs grown with
  | nil =>
      cases h
      rfl
  | cons name above ih =>
      have hnames : ∀ part ∈ (name :: above).reverse, Path.IsName part := by
        intro part hpart
        exact hsteps part (List.mem_reverse.mp hpart)
      have hplace : other ≠ (Path.ofNames absolute (name :: above).reverse).place := by
        rw [Path.place_ofNames hnames]
        exact hother _ (List.prefix_refl _)
      obtain ⟨below, hbelow, hlast⟩ := makeSteps_cases h
      have habove : below.node? other = fs.node? other := by
        rcases hbelow with rfl | hbelow
        · rfl
        · refine ih (fun part hpart => hsteps part (by simp [hpart])) hbelow ?_
          intro front hfront
          refine hother front (hfront.trans ?_)
          simp
      rcases hlast with hmade | ⟨_, rfl⟩
      · rw [makeDirectory_node? hmade hplace, habove]
      · exact habove

/-- On the way to a path that never goes up no directory is made at its end. -/
theorem makeDirectories_node? {parent : Path} (hup : ".." ∉ Path.names path)
    (hdown : fs.node? path.place ≠ some .directory) (hparent : Path.parent? path = some parent)
    (h : fs.makeDirectories parent = .ok grown) :
    grown.node? path.place = fs.node? path.place := by
  obtain rfl := Path.parent?_eq hparent
  have hparts : ∀ part ∈ (Path.steps path).dropLast, part ∈ Path.names path := fun part hpart =>
    (Path.steps_sublist path).subset ((List.dropLast_sublist _).subset hpart)
  have hnames := Path.names_ofNames (Path.isAbsolute path)
    fun part hpart => Path.isName_of_mem_names (hparts part hpart)
  generalize Path.ofNames (Path.isAbsolute path) (Path.steps path).dropLast = parent at h hnames
  have hlength := Path.depth_foldl_child ⟨Path.isAbsolute path, []⟩ hup
  have hdepth : 0 < Path.depth (Path.names path) := by
    rcases Nat.eq_zero_or_pos (Path.depth (Path.names path)) with hzero | hpositive
    · rw [hzero] at hlength
      refine (hdown (node?_of_all_up fs ?_)).elim
      rw [Path.place, List.eq_nil_of_length_eq_zero hlength]
      rfl
    · exact hpositive
  unfold makeDirectories at h
  split at h
  · cases h
  · refine makeSteps_node? ?_ h ?_
    · intro part hpart
      have hmember := (Path.steps_sublist parent).subset (List.mem_reverse.mp hpart)
      exact Path.isName_of_mem_names hmember
    · -- What is made on the way lies less deep.
      intro front hfront hplace
      rw [List.reverse_reverse] at hfront
      have hbelow : ".." ∉ front := by
        intro hmember
        have hsteps := (Path.steps_sublist parent).subset (hfront.subset hmember)
        rw [hnames] at hsteps
        exact hup (hparts _ hsteps)
      have hfrontLength := Path.depth_foldl_child ⟨Path.isAbsolute parent, []⟩ hbelow
      have hless : Path.depth front < Path.depth (Path.names path) := by
        calc Path.depth front ≤ Path.depth (Path.steps parent) :=
              hfront.sublist.countP_le
          _ = Path.depth (Path.steps path).dropLast := by rw [Path.depth_steps, hnames]
          _ < Path.depth (Path.names path) := Path.depth_dropLast_lt hdepth
      rw [Path.place] at hplace
      rw [hplace, hfrontLength] at hlength
      simp only [List.length_nil, Nat.zero_add] at hlength
      omega

end FileSystem

end WorkloadIdentity
