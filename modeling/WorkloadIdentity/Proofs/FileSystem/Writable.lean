import Mathlib.Data.List.Induction
import WorkloadIdentity.Proofs.TokenStores

/-!
Where a token can be written. A write makes the directories that a path lies in, name by name, and
then opens the file. So it succeeds exactly if the path is one that the system takes, no file is in
its way, and no directory is, or would be made, where the file is to be. That can be told before the
write from what is there.
-/

namespace WorkloadIdentity

variable {fs grown : FileSystem} {path : Path} {absolute : Bool} {parts front : List String}

/-! ### Beginnings of a path -/

theorem Place.foldl_child_filter (start : Place) (names : List String) :
    (names.filter (· ≠ ".")).foldl Place.child start = names.foldl Place.child start := by
  induction names generalizing start with
  | nil => rfl
  | cons name rest ih =>
      by_cases hstay : name = "."
      · subst hstay
        exact ih start
      · rw [List.filter_cons_of_pos (by simpa using hstay), List.foldl_cons, List.foldl_cons, ih]

/-- Names lead to the same place if they are the same but for those that stay where they are. -/
theorem Place.foldl_child_of_filter (start : Place) {names others : List String}
    (h : names.filter (· ≠ ".") = others.filter (· ≠ ".")) :
    names.foldl Place.child start = others.foldl Place.child start := by
  rw [← foldl_child_filter, h, foldl_child_filter]

namespace Path

theorem filter_steps (path : Path) :
    (steps path).filter (· ≠ ".") = (names path).filter (· ≠ ".") := by
  unfold steps
  split
  · next rest _ hnames => simp [hnames]
  · simp

theorem place_eq_steps (path : Path) :
    path.place = (steps path).foldl Place.child ⟨isAbsolute path, []⟩ :=
  Place.foldl_child_of_filter _ (filter_steps path).symm

/-- The names of the directories that are made for a path. -/
def parentSteps (path : Path) : List String :=
  steps (ofNames (isAbsolute path) (steps path).dropLast)

theorem dropLast_steps_sublist (path : Path) : (steps path).dropLast.Sublist (names path) :=
  (List.dropLast_sublist _).trans (steps_sublist path)

theorem names_parent (path : Path) :
    names (ofNames (isAbsolute path) (steps path).dropLast) = (steps path).dropLast :=
  names_ofNames _ fun _ hpart =>
    isName_of_mem_names ((dropLast_steps_sublist path).subset hpart)

theorem parentSteps_sublist (path : Path) : (parentSteps path).Sublist (names path) := by
  refine (steps_sublist _).trans ?_
  rw [names_parent]
  exact dropLast_steps_sublist path

theorem filter_parentSteps (path : Path) :
    (parentSteps path).filter (· ≠ ".") = (steps path).dropLast.filter (· ≠ ".") := by
  rw [parentSteps, filter_steps, names_parent]

/-- Where a directory is made for a path, the path itself leads before its end. -/
theorem exists_front_of_parent (hdown : 0 < depth (names path))
    (hfront : front <+: parentSteps path) :
    ∃ whole, whole <+: names path ∧ whole ≠ names path ∧
      whole.foldl Place.child ⟨isAbsolute path, []⟩ =
        front.foldl Place.child ⟨isAbsolute path, []⟩ := by
  have hsteps := hfront.filter (· ≠ ".")
  rw [filter_parentSteps] at hsteps
  have hnames := hsteps.trans ((List.dropLast_prefix _).filter (· ≠ "."))
  rw [filter_steps] at hnames
  obtain ⟨whole, hwhole, hsame⟩ := List.prefix_filter_iff.mp hnames
  refine ⟨whole, hwhole, ?_, (Place.foldl_child_of_filter _ hsame).symm⟩
  rintro rfl
  have hless := depth_dropLast_lt hdown
  have hle : depth (names path) ≤ depth (steps path).dropLast := by
    rw [← depth_filter (names path), ← hsame, ← depth_filter (steps path).dropLast]
    exact hsteps.sublist.countP_le
  omega

/-- Where a path leads before its end, a directory is made for it, or else it is where the path
itself leads. -/
theorem exists_front_of_names (hfront : front <+: names path) :
    (∃ above, above <+: parentSteps path ∧
      above.foldl Place.child ⟨isAbsolute path, []⟩ =
        front.foldl Place.child ⟨isAbsolute path, []⟩) ∨
      front.foldl Place.child ⟨isAbsolute path, []⟩ = path.place := by
  have hsteps := hfront.filter (· ≠ ".")
  rw [← filter_steps] at hsteps
  obtain ⟨whole, hwhole, hsame⟩ := List.prefix_filter_iff.mp hsteps
  have hplace := Place.foldl_child_of_filter ⟨isAbsolute path, []⟩ hsame
  have hcases : whole <+: (steps path).dropLast ∨ whole = steps path := by
    rcases List.eq_nil_or_concat (steps path) with hnil | ⟨init, last, hlast⟩
    · right
      rw [hnil] at hwhole ⊢
      exact List.prefix_nil.mp hwhole
    · rw [hlast, List.concat_eq_append] at hwhole ⊢
      rw [List.dropLast_concat]
      exact (List.prefix_concat_iff.mp hwhole).symm
  rcases hcases with hbelow | rfl
  · have hparent := hbelow.filter (· ≠ ".")
    rw [← filter_parentSteps] at hparent
    obtain ⟨above, habove, hagain⟩ := List.prefix_filter_iff.mp hparent
    exact Or.inl ⟨above, habove, (Place.foldl_child_of_filter _ (hsame.trans hagain)).symm⟩
  · exact Or.inr (hplace.trans (place_eq_steps path).symm)

/-! ### Names that can be spelled -/

/-- A path is no shorter than the paths of its names. -/
theorem ofNames_sublist (h : parts.Sublist (names path)) :
    (ofNames (isAbsolute path) parts).toList.Sublist path.toList := by
  have hjoined {text : Path} (hparts : parts.Sublist (names text)) :
      ("/".intercalate parts).toList.Sublist text.toList := by
    have hself : String.toList ∘ String.ofList = id := funext fun _ => String.toList_ofList
    have hnames : (parts.map String.toList).Sublist (Text.splitOn '/' text.toList) := by
      refine (hparts.map String.toList).trans ?_
      rw [names, List.map_map, hself, List.map_id]
      exact List.filter_sublist
    have hwhole := Text.intercalate_sublist hnames ['/']
    rwa [Text.intercalate_splitOn, ← show "/".toList = ['/'] from rfl,
      ← String.toList_intercalate] at hwhole
  cases habsolute : isAbsolute path with
  | false => exact hjoined h
  | true =>
      obtain ⟨rest, hrest⟩ : ∃ rest, path.toList = '/' :: rest := by
        simpa [isAbsolute, List.head?_eq_some_iff] using habsolute
      obtain rfl : path = "/" ++ String.ofList rest := by
        rw [← String.toList_inj, hrest]
        simp
      rw [names_slash] at h
      have hbelow := hjoined h
      simpa [ofNames] using hbelow

/-- All paths of the first of some names can be asked for. -/
structure Spelled (absolute : Bool) (parts : List String) : Prop where
  isName : ∀ part ∈ parts, IsName part
  shortNames : ∀ part ∈ parts, part.utf8ByteSize ≤ FileSystem.maxName
  plain : ∀ front, front <+: parts → ¬(ofNames absolute front).toList.contains '\x00' = true
  short : ∀ front, front <+: parts → (ofNames absolute front).utf8ByteSize ≤ FileSystem.maxPath

theorem Spelled.of_prefix (h : Spelled absolute parts) (hfront : front <+: parts) :
    Spelled absolute front where
  isName part hpart := h.isName part (hfront.subset hpart)
  shortNames part hpart := h.shortNames part (hfront.subset hpart)
  plain other hother := h.plain other (hother.trans hfront)
  short other hother := h.short other (hother.trans hfront)

theorem ofNames_ne_empty (h : ∀ part ∈ parts, IsName part) (hparts : parts ≠ []) :
    ofNames absolute parts ≠ "" := by
  intro hempty
  have hnames := names_ofNames absolute h
  rw [hempty] at hnames
  exact hparts hnames.symm

end Path

namespace FileSystem

/-! ### Open ways -/

theorem walk_cons_of_directory {start : Place} {name : String} {rest : List String}
    (hrest : rest ≠ []) (hname : name.utf8ByteSize ≤ maxName)
    (hnode : fs.node? (start.child name) = some .directory) :
    fs.walk start (name :: rest) = fs.walk (start.child name) rest := by
  cases rest with
  | nil => exact absurd rfl hrest
  | cons next rest =>
      rw [walk, if_neg (Nat.not_lt.mpr hname), hnode]
      exact List.cons_ne_nil _ _

/-- A way through directories is open. -/
theorem walk_of_directories_above {start : Place} {name : String}
    (hshort : ∀ part ∈ front ++ [name], part.utf8ByteSize ≤ maxName)
    (habove : ∀ above, above <+: front → above ≠ [] →
      fs.node? (above.foldl Place.child start) = some .directory) :
    fs.walk start (front ++ [name]) = .ok ((front ++ [name]).foldl Place.child start,
      fs.node? ((front ++ [name]).foldl Place.child start)) := by
  induction front generalizing start with
  | nil =>
      have hname := hshort name (by simp)
      rw [List.nil_append, walk, if_neg (Nat.not_lt.mpr hname)]
      rfl
  | cons first rest ih =>
      have hnode := habove [first] (by simp) (by simp)
      rw [List.cons_append, walk_cons_of_directory (by simp) (hshort first (by simp)) hnode,
        List.foldl_cons]
      refine ih (fun part hpart => hshort part (List.mem_cons_of_mem _ hpart)) ?_
      intro above habove' hempty
      exact habove (first :: above) (List.cons_prefix_cons.mpr ⟨rfl, habove'⟩) (by simp)

/-- What can be walked to a directory are directories all the way. -/
theorem directories_of_walk {start found : Place} {names : List String}
    (h : fs.walk start names = .ok (found, some .directory)) :
    ∀ front, front <+: names → front ≠ [] →
      fs.node? (front.foldl Place.child start) = some .directory := by
  intro front hfront hempty
  by_cases hwhole : front = names
  · subst hwhole
    obtain ⟨rfl, hnode, _⟩ := walk_ok h
    exact (hnode hempty).symm
  · exact (walk_ok_above h).2 front hfront hwhole hempty

/-! ### Making directories -/

/-- No file is on the way of some names, or at its end. -/
def Clear (fs : FileSystem) (absolute : Bool) (parts : List String) : Prop :=
  ∀ front, front <+: parts → ∀ object,
    fs.node? (front.foldl Place.child ⟨absolute, []⟩) ≠ some (.file object)

theorem Clear.of_prefix (h : fs.Clear absolute parts) (hfront : front <+: parts) :
    fs.Clear absolute front :=
  fun other hother => h other (hother.trans hfront)

theorem Clear.grow (h : fs.Clear absolute parts) (hadds : AddsDirectories fs grown) :
    grown.Clear absolute parts := by
  intro front hfront object hfile
  exact h front hfront object ((hadds.node_file _ object).mp hfile)

theorem locate_ofNames (fs : FileSystem) (hspelled : Path.Spelled absolute parts)
    (hparts : parts ≠ []) :
    fs.locate (Path.ofNames absolute parts) = (fs.walk ⟨absolute, []⟩ parts).mapError .system := by
  unfold locate
  rw [if_neg (hspelled.plain parts (List.prefix_refl _)),
    if_neg (Path.ofNames_ne_empty hspelled.isName hparts),
    if_neg (Nat.not_lt.mpr (hspelled.short parts (List.prefix_refl _))),
    Path.isAbsolute_ofNames hspelled.isName, Path.names_ofNames absolute hspelled.isName]

/-- A directory whose way is open can be made, or is there. -/
theorem makeDirectory_of_walk (hspelled : Path.Spelled absolute parts) (hparts : parts ≠ [])
    (hclear : fs.Clear absolute parts)
    (hwalk : fs.walk ⟨absolute, []⟩ parts = .ok (parts.foldl Place.child ⟨absolute, []⟩,
      fs.node? (parts.foldl Place.child ⟨absolute, []⟩))) :
    (∃ grown, fs.makeDirectory (Path.ofNames absolute parts) = .ok grown) ∨
      fs.isDirectory (Path.ofNames absolute parts) = true := by
  have hlocate := locate_ofNames fs hspelled hparts
  rw [hwalk] at hlocate
  rw [isDirectory_iff, Path.place_ofNames hspelled.isName, hlocate]
  unfold makeDirectory
  cases hnode : fs.node? (parts.foldl Place.child ⟨absolute, []⟩) with
  | none =>
      rw [hlocate, hnode]
      exact Or.inl ⟨_, rfl⟩
  | some node =>
      cases node with
      | file object => exact absurd hnode (hclear parts (List.prefix_refl _) object)
      | directory => exact Or.inr rfl

/-- The last directory is made in those above it, where these can be made. -/
theorem makeSteps_of_above {name : String} {above : List String} {below : FileSystem}
    (hbelow : fs.makeSteps absolute above = .ok below)
    (hhere : ∀ fault, fs.makeDirectory (Path.ofNames absolute (name :: above).reverse) =
      .error fault → fault.isNotFound = true ∨
        fs.isDirectory (Path.ofNames absolute (name :: above).reverse) = true)
    (hthere : (∃ grown, below.makeDirectory (Path.ofNames absolute (name :: above).reverse) =
      .ok grown) ∨ below.isDirectory (Path.ofNames absolute (name :: above).reverse) = true) :
    ∃ made, fs.makeSteps absolute (name :: above) = .ok made := by
  unfold makeSteps
  dsimp only
  rw [show (if absolute = true then "/" ++ "/".intercalate (name :: above).reverse
    else "/".intercalate (name :: above).reverse) =
      Path.ofNames absolute (name :: above).reverse from rfl]
  generalize Path.ofNames absolute (name :: above).reverse = path at hhere hthere
  cases hmade : fs.makeDirectory path with
  | ok made => exact ⟨made, rfl⟩
  | error fault =>
      dsimp only
      split
      · rw [hbelow]
        dsimp only [bind, Except.bind]
        cases hagain : below.makeDirectory path with
        | ok grown => exact ⟨grown, rfl⟩
        | error refused =>
            have hdirectory : below.isDirectory path = true := by
              simpa [hagain] using hthere
            exact ⟨below, by rw [hdirectory]; rfl⟩
      · next hfound =>
          have hdirectory : fs.isDirectory path = true :=
            (hhere fault hmade).resolve_left hfound
          exact ⟨fs, by rw [hdirectory]; rfl⟩

theorem place_directory_of_made (hspelled : Path.Spelled absolute parts)
    (h : fs.makeSteps absolute parts.reverse = .ok grown) :
    ∀ front, front <+: parts →
      grown.node? (front.foldl Place.child ⟨absolute, []⟩) = some .directory := by
  intro front hfront
  by_cases hempty : front = []
  · subst hempty
    exact node?_of_all_up grown rfl
  · have hparts : parts ≠ [] := by
      rintro rfl
      exact hempty (List.prefix_nil.mp hfront)
    have hmade := makeSteps_isDirectory (by simpa using hparts) h
    rw [List.reverse_reverse, isDirectory_iff] at hmade
    have hwalk := locate_walk hmade
    rw [Path.isAbsolute_ofNames hspelled.isName, Path.names_ofNames absolute hspelled.isName]
      at hwalk
    exact directories_of_walk hwalk front hfront hempty

/-- Directories can be made wherever no file is in the way. -/
theorem makeSteps_of_clear (hspelled : Path.Spelled absolute parts)
    (hclear : fs.Clear absolute parts) : ∃ made, fs.makeSteps absolute parts.reverse = .ok made := by
  induction parts using List.reverseRecOn with
  | nil => exact ⟨fs, rfl⟩
  | append_singleton above name ih =>
      have habove : above <+: above ++ [name] := List.prefix_append _ _
      have hparts : above ++ [name] ≠ [] := by simp
      have hpath : (name :: above.reverse).reverse = above ++ [name] := by simp
      obtain ⟨below, hbelow⟩ := ih (hspelled.of_prefix habove) (hclear.of_prefix habove)
      rw [List.reverse_append]
      apply makeSteps_of_above hbelow
      · -- The way is open, or breaks off where a directory is missing.
        rw [hpath]
        intro fault hfault
        rcases walk_of_no_files hparts hspelled.shortNames fun front hfront _ _ =>
          hclear front hfront with hwalk | hwalk
        · right
          refine (makeDirectory_of_walk hspelled hparts hclear hwalk).resolve_left ?_
          simp [hfault]
        · left
          have hlocate := locate_ofNames fs hspelled hparts
          rw [hwalk] at hlocate
          rw [makeDirectory, hlocate] at hfault
          cases hfault
          rfl
      · -- The directories above are there now.
        rw [hpath]
        apply makeDirectory_of_walk hspelled hparts (hclear.grow (makeSteps_adds hbelow))
        exact walk_of_directories_above hspelled.shortNames fun front hfront _ =>
          place_directory_of_made (hspelled.of_prefix habove) hbelow front hfront

/-! ### Where a write succeeds -/

/-- There may be a file at a path, and it can be made with the directories above it: the path does
not lead there before its end. -/
structure Writable (fs : FileSystem) (path : Path) : Prop extends Usable fs path where
  ends : Path.asksDirectory path = false
  direct : ∀ front, front <+: Path.names path → front ≠ Path.names path →
    front.foldl Place.child ⟨Path.isAbsolute path, []⟩ ≠ path.place

theorem Usable.depth_pos (h : fs.Usable path) : 0 < Path.depth (Path.names path) := by
  rw [Nat.pos_iff_ne_zero]
  intro hzero
  have hnone : (Path.names path).filter (· ≠ ".") = [] := by
    rw [← List.length_eq_zero_iff, ← List.countP_eq_length_filter]
    exact hzero
  apply h.free
  apply node?_of_all_up
  rw [Path.place, ← Place.foldl_child_filter, hnone]
  rfl

theorem Usable.plain_of_sublist (h : fs.Usable path) {text : Path}
    (htext : text.toList.Sublist path.toList) : ¬text.toList.contains '\x00' = true := by
  intro hzero
  apply h.plain
  rw [List.contains_iff_mem] at hzero ⊢
  exact htext.subset hzero

theorem Usable.spelled (h : fs.Usable path) :
    Path.Spelled (Path.isAbsolute path) (Path.parentSteps path) := by
  have hsublist := Path.parentSteps_sublist path
  have htext {front : List String} (hfront : front <+: Path.parentSteps path) :=
    Path.ofNames_sublist (hfront.sublist.trans hsublist)
  constructor
  · intro part hpart
    exact Path.isName_of_mem_names (hsublist.subset hpart)
  · intro part hpart
    exact h.shortNames part (hsublist.subset hpart)
  · intro front hfront
    exact h.plain_of_sublist (htext hfront)
  · intro front hfront
    exact Nat.le_trans (Text.utf8ByteSize_le_of_sublist (htext hfront)) h.short

theorem Usable.clear (h : fs.Usable path) :
    fs.Clear (Path.isAbsolute path) (Path.parentSteps path) := by
  intro front hfront object
  obtain ⟨whole, hwhole, hproper, hsame⟩ := Path.exists_front_of_parent h.depth_pos hfront
  rw [← hsame]
  exact h.above whole hwhole (Or.inl hproper) object

/-- The directories above a path can be made. -/
theorem Usable.makeParents_ok (h : fs.Usable path) : ∃ made, fs.makeParents path = .ok made ∧
    fs.makeSteps (Path.isAbsolute path) (Path.parentSteps path).reverse = .ok made := by
  obtain ⟨made, hmade⟩ := makeSteps_of_clear h.spelled h.clear
  refine ⟨made, ?_, hmade⟩
  unfold FileSystem.makeParents
  split
  · next parent hparent =>
      obtain rfl := Path.parent?_eq hparent
      split
      · have habsolute : Path.isAbsolute
            (Path.ofNames (Path.isAbsolute path) (Path.steps path).dropLast) =
              Path.isAbsolute path :=
          Path.isAbsolute_ofNames fun _ hpart =>
            Path.isName_of_mem_names ((Path.dropLast_steps_sublist path).subset hpart)
        have hplain := h.plain_of_sublist (Path.ofNames_sublist (Path.dropLast_steps_sublist path))
        rw [makeDirectories, if_neg hplain, habsolute]
        exact hmade
      · next hempty =>
          have hnone : Path.parentSteps path = [] := by
            rw [Path.parentSteps, not_not.mp hempty]
            rfl
          rw [hnone] at hmade
          exact hmade
  · next hparent =>
      have hnone : Path.steps path = [] := by
        unfold Path.parent? at hparent
        split at hparent
        · assumption
        · cases hparent
      have hdown := h.depth_pos
      rw [← Path.depth_steps, hnone] at hdown
      cases hdown

/-- Once the directories are there, the way to the file is open, and nothing new stands at its
end. -/
theorem Writable.located_of_made (h : fs.Writable path)
    (hmade : fs.makeSteps (Path.isAbsolute path) (Path.parentSteps path).reverse = .ok grown) :
    grown.locate path = .ok (path.place, fs.node? path.place) := by
  have hspelled := h.spelled
  have hdirectory := place_directory_of_made hspelled hmade
  have hend : grown.node? path.place = fs.node? path.place := by
    refine makeSteps_node? (fun name hname => hspelled.isName name (by simpa using hname)) hmade ?_
    intro front hfront hsame
    rw [List.reverse_reverse] at hfront
    obtain ⟨whole, hwhole, hproper, hplace⟩ := Path.exists_front_of_parent h.depth_pos hfront
    exact h.direct whole hwhole hproper (hplace.trans hsame.symm)
  have hwalk : grown.walk ⟨Path.isAbsolute path, []⟩ (Path.names path) =
      .ok (path.place, grown.node? path.place) := by
    have hshort := h.shortNames
    obtain ⟨init, last, hnames⟩ :=
      (List.eq_nil_or_concat (Path.names path)).resolve_left h.names_ne_nil
    rw [List.concat_eq_append] at hnames
    rw [hnames] at hshort
    rw [Path.place, hnames]
    refine walk_of_directories_above hshort ?_
    intro front hfront _
    have hwhole : front <+: Path.names path := hnames ▸ hfront.trans (List.prefix_append _ _)
    have hproper : front ≠ Path.names path := by
      rintro rfl
      have hlength := hfront.length_le
      rw [hnames, List.length_append, List.length_singleton] at hlength
      omega
    rcases Path.exists_front_of_names hwhole with ⟨above, habove, hplace⟩ | hplace
    · rw [← hplace, hdirectory above habove]
    · exact absurd hplace (h.direct front hwhole hproper)
  have hempty : path ≠ "" := by
    rintro rfl
    exact h.names_ne_nil rfl
  rw [locate, if_neg h.plain, if_neg hempty, if_neg (Nat.not_lt.mpr h.short), hwalk, hend]
  rfl

theorem Writable.opens (h : fs.Writable path) : ∃ made result,
    fs.makeParents path = .ok made ∧ made.openTruncated path ownerOnly = .ok result := by
  obtain ⟨made, hmade, hsteps⟩ := h.makeParents_ok
  have hlocate := h.located_of_made hsteps
  refine ⟨made, ?_⟩
  cases hnode : fs.node? path.place with
  | none =>
      rw [hnode] at hlocate
      exact ⟨_, hmade, openTruncated_of_none hlocate h.ends ownerOnly⟩
  | some node =>
      cases node with
      | directory => exact absurd hnode h.free
      | file object =>
          rw [hnode] at hlocate
          unfold openTruncated
          rw [hlocate, h.ends]
          exact ⟨_, hmade, rfl⟩

/-- The file at the end of an open way, or the room for one, can be written. -/
theorem writable_of_located {node : Option Node} (hends : Path.asksDirectory path = false)
    (hlocate : fs.locate path = .ok (path.place, node)) (hfree : node ≠ some .directory) :
    fs.Writable path where
  toUsable := usable_of_located hends hlocate hfree
  ends := hends
  direct front hfront hproper hplace := by
    apply hfree
    rw [(locate_ok hlocate).2, ← hplace, directory_of_located hlocate hfront hproper]

/-- Directories that are made take no room that was not there. -/
theorem Writable.of_grown (hadds : AddsDirectories fs grown) (h : grown.Writable path) :
    fs.Writable path where
  plain := h.plain
  short := h.short
  shortNames := h.shortNames
  above front hfront hproper object hfile :=
    h.above front hfront hproper object ((hadds.node_file _ object).mpr hfile)
  free hthere := h.free ((hadds.beside path.place).directory _ hthere)
  ends := h.ends
  direct := h.direct

/-- Where the file can be opened once the directories have been made, nothing was in the way. -/
theorem writable_of_opens {made : FileSystem} {mode object : Nat}
    (hmade : fs.makeParents path = .ok made)
    (hopened : made.openTruncated path mode = .ok (object, grown)) : fs.Writable path := by
  apply Writable.of_grown (makeParents_adds hmade)
  obtain ⟨hends, ⟨hlocate, _⟩ | ⟨hlocate, _⟩⟩ := openTruncated_ok hopened
  · exact writable_of_located hends hlocate (by simp)
  · exact writable_of_located hends hlocate (by simp)

end FileSystem

/-! ### Stores -/

namespace FileStore

variable {data : Bytes}

/-- A token is taken exactly where its file can be written. -/
theorem write_ok_iff (store : FileStore) (hdata : data ≠ []) :
    (store.write data fs).1 = .ok () ↔ fs.Writable store.path := by
  constructor
  · intro h
    obtain ⟨_, grown, hrun, _⟩ := write_ok h
    obtain ⟨made, object, opened, hmade, hopened, _⟩ := TokenFile.write_ok hrun
    exact FileSystem.writable_of_opens hmade hopened
  · intro h
    obtain ⟨made, ⟨object, opened⟩, hmade, hopened⟩ := h.opens
    obtain ⟨grown, hrun⟩ := TokenFile.write_of_open hmade hopened data
    unfold write
    rw [if_neg (by simpa using hdata), hrun]

/-- And there it is read back. -/
theorem read_of_writable (store : FileStore) (hsound : fs.Sound) (hdata : data ≠ [])
    (h : fs.Writable store.path) :
    ∃ grown, store.write data fs = (.ok (), { store with copy := some data }, grown) ∧
      FileStore.read { store with copy := some data } grown = .ok data := by
  obtain ⟨grown, hwrite, hholds⟩ := write_of_opens store hsound h.opens hdata
  exact ⟨grown, hwrite, read_eq_ok hholds.read hdata⟩

end FileStore

end WorkloadIdentity
