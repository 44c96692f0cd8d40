import WorkloadIdentity.Proofs.FileSystem.Walk

/-!
What calls leave alone. In a sound file system no two names lead to one file, so a change to the
file at one place is not seen at another one. `Beside` is what a change elsewhere may do: the file
at a place stays, and so do all directories.
-/

namespace WorkloadIdentity.FileSystem

variable {fs grown : FileSystem} {place : Place} {path : Path}

/-- Every name of a file leads to an object that exists, no two names to the same one, and all that
has a name lies in a directory. -/
structure Sound (fs : FileSystem) : Prop where
  inRange : ∀ place object, fs.node? place = some (.file object) → object < fs.objects.length
  distinct : ∀ place other object, fs.node? place = some (.file object) →
    fs.node? other = some (.file object) → place = other
  closed : ∀ place node, fs.node? place = some node → fs.node? place.parent = some .directory

/-- A change that keeps the file at a place, or that there is none, and all directories. -/
structure Beside (place : Place) (fs grown : FileSystem) : Prop where
  directory : ∀ other, fs.node? other = some .directory → grown.node? other = some .directory
  file : ∀ object,
    grown.node? place = some (.file object) ↔ fs.node? place = some (.file object)
  content : ∀ object, fs.node? place = some (.file object) →
    grown.object? object = fs.object? object

theorem Beside.refl (place : Place) (fs : FileSystem) : Beside place fs fs :=
  ⟨fun _ h => h, fun _ => Iff.rfl, fun _ _ => rfl⟩

theorem Beside.trans {later : FileSystem} (h : Beside place fs grown)
    (hlater : Beside place grown later) : Beside place fs later where
  directory other hother := hlater.directory other (h.directory other hother)
  file object := (hlater.file object).trans (h.file object)
  content object hobject :=
    (hlater.content object ((h.file object).mpr hobject)).trans (h.content object hobject)

theorem parent_all_up (h : place.names.all (· == "..") = true) :
    place.parent.names.all (· == "..") = true := by
  rw [List.all_eq_true] at h ⊢
  intro name member
  exact h name ((List.dropLast_sublist _).subset member)

theorem empty_sound : empty.Sound := by
  have hfile (place : Place) (object : Nat) : empty.node? place ≠ some (.file object) := by
    unfold node?
    split <;> simp [empty]
  refine ⟨fun place object h => (hfile place object h).elim,
    fun place _ object h => (hfile place object h).elim, ?_⟩
  intro place node h
  apply node?_of_all_up
  apply parent_all_up
  unfold node? at h
  split at h
  · next hup => exact hup
  · simp [empty] at h

/-- A name that leads to nothing in a directory is a name for something new in it. -/
private theorem child_parent (hsound : fs.Sound) {start : Place} {name : String}
    (hstart : fs.node? start = some .directory) (hnone : fs.node? (start.child name) = none) :
    fs.node? (start.child name).parent = some .directory := by
  have hnot {other : Place} (hother : fs.node? other = some .directory)
      (hchild : start.child name = other) : False := by
    rw [hchild, hother] at hnone
    cases hnone
  by_cases hstay : name = "."
  · exact (hnot hstart (by rw [Place.child, if_pos hstay])).elim
  by_cases hup : name = ".."
  · -- Going up leads to a directory, wherever it starts.
    have hchild : start.child name =
        if start.names.all (· == "..") then
          if start.absolute then start else { start with names := start.names ++ [".."] }
        else start.parent := by
      rw [Place.child, if_neg hstay, if_pos hup]
      rfl
    split at hchild
    · next hall =>
        split at hchild
        · exact (hnot hstart hchild).elim
        · refine (hnot (node?_of_all_up fs ?_) hchild).elim
          simpa using hall
    · exact (hnot (hsound.closed start .directory hstart) hchild).elim
  · have hchild : start.child name = { start with names := start.names ++ [name] } := by
      rw [Place.child, if_neg hstay, if_neg hup]
    have hparent : (start.child name).parent = start := by
      rw [hchild, Place.parent]
      simp
    rw [hparent, hstart]

/-- Where a way is open but ends with nothing, there is a directory to put something in. -/
theorem walk_none_parent (hsound : fs.Sound) {start found : Place} {names : List String}
    (hstart : fs.node? start = some .directory)
    (h : fs.walk start names = .ok (found, none)) :
    fs.node? found.parent = some .directory := by
  induction names generalizing start with
  | nil => cases h
  | cons name rest ih =>
      cases rest with
      | nil =>
          unfold walk at h
          split at h
          · cases h
          · obtain ⟨rfl, hnone⟩ := Prod.mk.inj (Except.ok.inj h)
            exact child_parent hsound hstart hnone
      | cons next rest =>
          unfold walk at h
          split at h
          · cases h
          · split at h
            · cases h
            · cases h
            · next hnode => exact ih hnode h

theorem parent_of_locate_none (hsound : fs.Sound) (h : fs.locate path = .ok (path.place, none)) :
    fs.node? path.place.parent = some .directory :=
  walk_none_parent hsound (node?_of_all_up fs rfl) (locate_walk h)

/-- A new name in a directory. -/
private theorem setNode_closed
    (hclosed : ∀ place node, fs.node? place = some node →
      fs.node? place.parent = some .directory)
    (hnone : fs.node? place = none) (hparent : fs.node? place.parent = some .directory)
    (new : Node) (other : Place) (node : Node)
    (h : (fs.setNode place (some new)).node? other = some node) :
    (fs.setNode place (some new)).node? other.parent = some .directory := by
  have hdirectory : fs.node? other.parent = some .directory := by
    by_cases hother : other = place
    · rw [hother, hparent]
    · rw [node?_setNode_ne hother] at h
      exact hclosed other node h
  have hne : other.parent ≠ place := by
    intro hplace
    rw [hplace, hnone] at hdirectory
    cases hdirectory
  rw [node?_setNode_ne hne, hdirectory]

/-! ### Making directories -/

/-- Directories appear where there was nothing, and that is all. -/
structure AddsDirectories (fs grown : FileSystem) : Prop where
  objects : grown.objects = fs.objects
  nodes : ∀ place, grown.node? place = fs.node? place ∨
    (fs.node? place = none ∧ grown.node? place = some .directory)
  sound : fs.Sound → grown.Sound

namespace AddsDirectories

theorem refl (fs : FileSystem) : AddsDirectories fs fs := ⟨rfl, fun _ => Or.inl rfl, id⟩

theorem trans {later : FileSystem} (h : AddsDirectories fs grown)
    (hlater : AddsDirectories grown later) : AddsDirectories fs later where
  objects := hlater.objects.trans h.objects
  nodes place := by
    rcases hlater.nodes place with hsame | ⟨hnone, hdirectory⟩
    · rw [hsame]
      exact h.nodes place
    · rcases h.nodes place with hsame | ⟨_, hbefore⟩
      · exact Or.inr ⟨hsame ▸ hnone, hdirectory⟩
      · rw [hbefore] at hnone
        cases hnone
  sound hsound := hlater.sound (h.sound hsound)

theorem node_file (h : AddsDirectories fs grown) (place : Place) (object : Nat) :
    grown.node? place = some (.file object) ↔ fs.node? place = some (.file object) := by
  rcases h.nodes place with hsame | ⟨hnone, hdirectory⟩
  · rw [hsame]
  · simp [hnone, hdirectory]

theorem node_none (h : AddsDirectories fs grown) (hnone : grown.node? place = none) :
    fs.node? place = none := by
  rcases h.nodes place with hsame | ⟨hbefore, _⟩
  · rw [← hsame, hnone]
  · exact hbefore

theorem beside (h : AddsDirectories fs grown) (place : Place) : Beside place fs grown where
  directory other hother := by
    rcases h.nodes other with hsame | ⟨_, hdirectory⟩
    · rw [hsame, hother]
    · exact hdirectory
  file object := h.node_file place object
  content object _ := by rw [object?, object?, h.objects]

/-- A way that is open and ends with nothing was open or broke off before. -/
theorem walk_none (h : AddsDirectories fs grown) {start found : Place} {names : List String}
    (hwalk : grown.walk start names = .ok (found, none)) :
    fs.walk start names = .ok (found, none) ∨ fs.walk start names = .error .noEntry := by
  induction names generalizing start with
  | nil => cases hwalk
  | cons name rest ih =>
      cases rest with
      | nil =>
          unfold walk at hwalk ⊢
          split at hwalk
          · cases hwalk
          · next hname =>
              obtain ⟨hfound, hnone⟩ := Prod.mk.inj (Except.ok.inj hwalk)
              rw [if_neg hname, h.node_none hnone, hfound]
              exact Or.inl rfl
      | cons next rest =>
          unfold walk at hwalk ⊢
          split at hwalk
          · cases hwalk
          · next hname =>
              rw [if_neg hname]
              split at hwalk
              · cases hwalk
              · cases hwalk
              · next hnode =>
                  rcases h.nodes (start.child name) with hsame | ⟨hbefore, _⟩
                  · rw [← hsame, hnode]
                    exact ih hwalk
                  · rw [hbefore]
                    exact Or.inr rfl

end AddsDirectories

private theorem setDirectory_adds (hnone : fs.node? place = none)
    (hparent : fs.Sound → fs.node? place.parent = some .directory) :
    AddsDirectories fs (fs.setNode place (some .directory)) := by
  have hempty : fs.node? place ≠ some .directory := by simp [hnone]
  have hself : (fs.setNode place (some .directory)).node? place = some .directory :=
    node?_setNode_self (not_all_up_of_node? hempty) _
  have hfile {other : Place} {object : Nat}
      (h : (fs.setNode place (some .directory)).node? other = some (.file object)) :
      fs.node? other = some (.file object) := by
    by_cases hother : other = place
    · rw [hother, hself] at h
      cases h
    · rwa [node?_setNode_ne hother] at h
  refine ⟨rfl, ?_, ?_⟩
  · intro other
    by_cases hother : other = place
    · rw [hother]
      exact Or.inr ⟨hnone, hself⟩
    · exact Or.inl (node?_setNode_ne hother _)
  · intro hsound
    constructor
    · intro other object h
      exact hsound.inRange other object (hfile h)
    · intro one other object hone hother
      exact hsound.distinct one other object (hfile hone) (hfile hother)
    · exact setNode_closed hsound.closed hnone (hparent hsound) .directory

theorem makeDirectory_adds (h : fs.makeDirectory path = .ok grown) :
    AddsDirectories fs grown := by
  obtain ⟨⟨found, node⟩, hlocate, h⟩ := exists_of_bind_ok h
  obtain ⟨rfl, hnode⟩ := locate_ok hlocate
  cases node with
  | none =>
      cases h
      exact setDirectory_adds hnode.symm fun hsound => parent_of_locate_none hsound hlocate
  | some node => cases h

/-- What a directory that is made or was there has been made in: the file system as it was, or that
with the directories above. -/
theorem makeSteps_cases {absolute : Bool} {name : String} {above : List String}
    (h : fs.makeSteps absolute (name :: above) = .ok grown) :
    ∃ below, (below = fs ∨ fs.makeSteps absolute above = .ok below) ∧
      (below.makeDirectory (Path.ofNames absolute (name :: above).reverse) = .ok grown ∨
        below.isDirectory (Path.ofNames absolute (name :: above).reverse) = true ∧
          below = grown) := by
  unfold makeSteps at h
  dsimp only at h
  rw [show (if absolute = true then "/" ++ "/".intercalate (name :: above).reverse
    else "/".intercalate (name :: above).reverse) =
      Path.ofNames absolute (name :: above).reverse from rfl] at h
  split at h
  · next hmade =>
      cases h
      exact ⟨fs, Or.inl rfl, Or.inl hmade⟩
  · split at h
    · obtain ⟨below, hbelow, h⟩ := exists_of_bind_ok h
      refine ⟨below, Or.inr hbelow, ?_⟩
      split at h
      · next hmade =>
          cases h
          exact Or.inl hmade
      · split at h
        · next hthere =>
            cases h
            exact Or.inr ⟨hthere, rfl⟩
        · cases h
    · split at h
      · next hthere =>
          cases h
          exact ⟨fs, Or.inl rfl, Or.inr ⟨hthere, rfl⟩⟩
      · cases h

theorem makeSteps_adds {absolute : Bool} {steps : List String}
    (h : fs.makeSteps absolute steps = .ok grown) : AddsDirectories fs grown := by
  induction steps generalizing fs grown with
  | nil =>
      cases h
      exact .refl fs
  | cons name above ih =>
      obtain ⟨below, hbelow, hlast⟩ := makeSteps_cases h
      have habove : AddsDirectories fs below := by
        rcases hbelow with rfl | hbelow
        · exact .refl below
        · exact ih hbelow
      rcases hlast with hmade | ⟨_, rfl⟩
      · exact habove.trans (makeDirectory_adds hmade)
      · exact habove

theorem makeDirectories_adds (h : fs.makeDirectories path = .ok grown) :
    AddsDirectories fs grown := by
  unfold makeDirectories at h
  split at h
  · cases h
  · exact makeSteps_adds h

/-! ### Opening, writing, removing -/

/-- An opened file was there and is emptied, or it is new. -/
theorem openTruncated_ok {mode object : Nat}
    (h : fs.openTruncated path mode = .ok (object, grown)) :
    Path.asksDirectory path = false ∧
      ((fs.locate path = .ok (path.place, some (.file object)) ∧
          ∃ kept, grown = fs.setObject object ⟨[], kept⟩) ∨
        (fs.locate path = .ok (path.place, none) ∧ object = fs.objects.length ∧
          grown = FileSystem.setNode { fs with objects := fs.objects ++ [⟨[], mode⟩] } path.place
            (some (.file object)))) := by
  obtain ⟨⟨found, node⟩, hlocate, h⟩ := exists_of_bind_ok h
  obtain ⟨rfl, _⟩ := locate_ok hlocate
  rw [hlocate]
  cases hasks : Path.asksDirectory path with
  | true =>
      dsimp only at h
      rw [hasks] at h
      rcases node with _ | _ | _ <;> cases h
  | false =>
      dsimp only at h
      rw [hasks] at h
      refine ⟨rfl, ?_⟩
      rcases node with _ | _ | old
      · cases h
        exact Or.inr ⟨rfl, rfl, rfl⟩
      · cases h
      · cases h
        exact Or.inl ⟨rfl, _, rfl⟩

theorem openTruncated_of_none {found : Place} (h : fs.locate path = .ok (found, none))
    (hasks : Path.asksDirectory path = false) (mode : Nat) :
    fs.openTruncated path mode =
      .ok (fs.objects.length, FileSystem.setNode { fs with objects := fs.objects ++ [⟨[], mode⟩] }
        found (some (.file fs.objects.length))) := by
  unfold openTruncated
  rw [h, hasks]
  rfl

theorem openTruncated_of_file {found : Place} {object : Nat} {file : FileObject}
    (h : fs.locate path = .ok (found, some (.file object)))
    (hasks : Path.asksDirectory path = false) (hfile : fs.object? object = some file)
    (mode : Nat) :
    fs.openTruncated path mode = .ok (object, fs.setObject object ⟨[], file.mode⟩) := by
  unfold openTruncated
  rw [h, hasks]
  show Except.ok (object, fs.setObject object ⟨[], ((fs.object? object).map (·.mode)).getD mode⟩) =
    _
  rw [hfile]
  rfl

theorem setObject_sound (hsound : fs.Sound) (object : Nat) (file : FileObject) :
    (fs.setObject object file).Sound where
  inRange place other hfile := by
    have hlength : (fs.setObject object file).objects.length = fs.objects.length :=
      List.length_set
    rw [hlength]
    exact hsound.inRange place other hfile
  distinct := hsound.distinct
  closed := hsound.closed

theorem setObject_beside {object : Nat} (h : fs.node? place ≠ some (.file object))
    (file : FileObject) : Beside place fs (fs.setObject object file) where
  directory _ hother := hother
  file _ := Iff.rfl
  content other hother := by
    apply object?_setObject_ne
    rintro rfl
    exact h hother

theorem overwrite_sound (hsound : fs.Sound) (object : Nat) (data : Bytes) :
    (fs.overwrite object data).Sound := by
  unfold overwrite
  split
  · exact setObject_sound hsound object _
  · exact hsound

theorem overwrite_beside {object : Nat} (h : fs.node? place ≠ some (.file object))
    (data : Bytes) : Beside place fs (fs.overwrite object data) := by
  unfold overwrite
  split
  · exact setObject_beside h _
  · exact .refl place fs

/-- A name for a file that is new. -/
theorem create_sound (hsound : fs.Sound) (file : FileObject)
    (hnone : fs.node? place = none) (hparent : fs.node? place.parent = some .directory) :
    (FileSystem.setNode { fs with objects := fs.objects ++ [file] } place
      (some (.file fs.objects.length))).Sound := by
  have hother (other : Place) (h : other ≠ place) :
      (FileSystem.setNode { fs with objects := fs.objects ++ [file] } place
        (some (.file fs.objects.length))).node? other = fs.node? other :=
    node?_setNode_ne h _
  have hempty : fs.node? place ≠ some .directory := by simp [hnone]
  have hself : (FileSystem.setNode { fs with objects := fs.objects ++ [file] } place
      (some (.file fs.objects.length))).node? place = some (.file fs.objects.length) :=
    node?_setNode_self (not_all_up_of_node? hempty) _
  have hfresh (other : Place) : fs.node? other ≠ some (.file fs.objects.length) := by
    intro hnode
    have hrange := hsound.inRange other _ hnode
    omega
  constructor
  · intro other object hfile
    have hlength : (fs.objects ++ [file]).length = fs.objects.length + 1 := by simp
    show object < (fs.objects ++ [file]).length
    rw [hlength]
    by_cases hplace : other = place
    · subst hplace
      rw [hself] at hfile
      cases hfile
      omega
    · rw [hother other hplace] at hfile
      have hrange := hsound.inRange other object hfile
      omega
  · intro one other object hone hsecond
    by_cases hfirst : one = place
    · by_cases hplace : other = place
      · rw [hfirst, hplace]
      · subst hfirst
        rw [hself] at hone
        cases hone
        rw [hother other hplace] at hsecond
        exact (hfresh other hsecond).elim
    · by_cases hplace : other = place
      · subst hplace
        rw [hself] at hsecond
        cases hsecond
        rw [hother one hfirst] at hone
        exact (hfresh one hone).elim
      · rw [hother one hfirst] at hone
        rw [hother other hplace] at hsecond
        exact hsound.distinct one other object hone hsecond
  · have hgrown (other : Place) : ({ fs with objects := fs.objects ++ [file] } : FileSystem).node?
        other = fs.node? other := rfl
    apply setNode_closed
    · intro other node hnode
      rw [hgrown] at hnode ⊢
      exact hsound.closed other node hnode
    · exact hnone
    · exact hparent

theorem openTruncated_sound {mode object : Nat} (hsound : fs.Sound)
    (h : fs.openTruncated path mode = .ok (object, grown)) : grown.Sound := by
  obtain ⟨_, ⟨_, kept, rfl⟩ | ⟨hlocate, rfl, rfl⟩⟩ := openTruncated_ok h
  · exact setObject_sound hsound object _
  · exact create_sound hsound _ (locate_ok hlocate).2.symm (parent_of_locate_none hsound hlocate)

theorem openTruncated_beside {mode object : Nat} (hsound : fs.Sound)
    (hplace : place ≠ path.place) (h : fs.openTruncated path mode = .ok (object, grown)) :
    Beside place fs grown := by
  obtain ⟨_, ⟨hlocate, kept, rfl⟩ | ⟨hlocate, rfl, rfl⟩⟩ := openTruncated_ok h
  · apply setObject_beside
    intro hnode
    exact hplace (hsound.distinct place path.place object hnode (locate_ok hlocate).2.symm)
  · have hnone := (locate_ok hlocate).2
    constructor
    · intro other hother
      have hne : other ≠ path.place := by
        rintro rfl
        rw [← hnone] at hother
        cases hother
      exact (node?_setNode_ne hne _).trans hother
    · intro object
      rw [node?_setNode_ne hplace]
      exact Iff.rfl
    · intro object hobject
      have hrange := hsound.inRange place object hobject
      exact List.getElem?_append_left hrange

theorem openTruncated_locate {mode object : Nat}
    (h : fs.openTruncated path mode = .ok (object, grown)) :
    grown.locate path = .ok (path.place, some (.file object)) := by
  obtain ⟨_, ⟨hlocate, kept, rfl⟩ | ⟨hlocate, rfl, rfl⟩⟩ := openTruncated_ok h
  · rw [(locate_ok hlocate).2]
    refine locate_of_directories ?_ hlocate
    intro other hother
    exact hother
  · have hempty : fs.node? path.place ≠ some .directory := by simp [← (locate_ok hlocate).2]
    rw [locate_of_directories ?_ hlocate, node?_setNode_self (not_all_up_of_node? hempty)]
    intro other hother
    have hne : other ≠ path.place := by
      rintro rfl
      exact hempty hother
    exact (node?_setNode_ne hne _).trans hother

/-- The opened file is where the path leads, and empty. -/
theorem openTruncated_file {mode object : Nat} (hsound : fs.Sound)
    (h : fs.openTruncated path mode = .ok (object, grown)) :
    grown.locate path = .ok (path.place, some (.file object)) ∧
      ∃ kept, grown.object? object = some ⟨[], kept⟩ := by
  refine ⟨openTruncated_locate h, ?_⟩
  obtain ⟨_, ⟨hlocate, kept, rfl⟩ | ⟨hlocate, rfl, rfl⟩⟩ := openTruncated_ok h
  · have hnode := (locate_ok hlocate).2
    exact ⟨kept, object?_setObject_self (hsound.inRange path.place object hnode.symm) _⟩
  · refine ⟨mode, ?_⟩
    show (fs.objects ++ [⟨[], mode⟩])[fs.objects.length]? = some ⟨[], mode⟩
    simp

theorem put_ok {content : Bytes} {mode : Nat} (h : fs.put path content mode = .ok grown) :
    ∃ made object opened, AddsDirectories fs made ∧
      made.openTruncated path mode = .ok (object, opened) ∧
      grown = opened.overwrite object content := by
  obtain ⟨made, hmade, h⟩ := exists_of_bind_ok h
  obtain ⟨⟨object, opened⟩, hopened, h⟩ := exists_of_bind_ok h
  cases h
  exact ⟨made, object, opened, makeDirectories_adds hmade, hopened, rfl⟩

theorem put_sound {content : Bytes} {mode : Nat} (hsound : fs.Sound)
    (h : fs.put path content mode = .ok grown) : grown.Sound := by
  obtain ⟨made, object, opened, hadds, hopened, rfl⟩ := put_ok h
  exact overwrite_sound (openTruncated_sound (hadds.sound hsound) hopened) object content

/-- Putting a file at one place is nothing to the file at another one. -/
theorem put_beside {content : Bytes} {mode : Nat} (hsound : fs.Sound)
    (hplace : place ≠ path.place) (h : fs.put path content mode = .ok grown) :
    Beside place fs grown := by
  obtain ⟨made, object, opened, hadds, hopened, rfl⟩ := put_ok h
  have hmade := hadds.sound hsound
  have hnode : opened.node? place ≠ some (.file object) := by
    intro hother
    have hself := (locate_ok (openTruncated_file hmade hopened).1).2
    exact hplace ((openTruncated_sound hmade hopened).distinct place path.place object hother
      hself.symm)
  exact (hadds.beside place).trans
    ((openTruncated_beside hmade hplace hopened).trans (overwrite_beside hnode content))

theorem remove_ok (h : fs.remove path = .ok grown) :
    ∃ object, fs.node? path.place = some (.file object) ∧ grown = fs.setNode path.place none := by
  obtain ⟨⟨found, node⟩, hlookup, h⟩ := exists_of_bind_ok h
  obtain ⟨rfl, hnode⟩ := locate_ok (lookup_ok hlookup)
  cases node with
  | directory => cases h
  | file object =>
      cases h
      exact ⟨object, hnode.symm, rfl⟩

theorem node?_of_removed {removed other : Place} {node : Node}
    (hup : removed.names.all (· == "..") = false)
    (h : (fs.setNode removed none).node? other = some node) : fs.node? other = some node := by
  by_cases hother : other = removed
  · subst hother
    rw [node?_setNode_self hup] at h
    cases h
  · rwa [node?_setNode_ne hother] at h

theorem remove_sound (hsound : fs.Sound) (h : fs.remove path = .ok grown) : grown.Sound := by
  obtain ⟨object, hfile, rfl⟩ := remove_ok h
  have hup := not_all_up_of_node? (by rw [hfile]; simp : fs.node? path.place ≠ some .directory)
  constructor
  · intro other found hnode
    exact hsound.inRange other found (node?_of_removed hup hnode)
  · intro one other found hone hother
    exact hsound.distinct one other found (node?_of_removed hup hone)
      (node?_of_removed hup hother)
  · intro other node hnode
    have hparent := hsound.closed other node (node?_of_removed hup hnode)
    have hne : other.parent ≠ path.place := by
      intro hplace
      rw [hplace, hfile] at hparent
      cases hparent
    exact (node?_setNode_ne hne none).trans hparent

theorem remove_beside (hplace : place ≠ path.place) (h : fs.remove path = .ok grown) :
    Beside place fs grown := by
  obtain ⟨object, hfile, rfl⟩ := remove_ok h
  constructor
  · intro other hother
    have hne : other ≠ path.place := by
      rintro rfl
      rw [hfile] at hother
      cases hother
    exact (node?_setNode_ne hne _).trans hother
  · intro found
    rw [node?_setNode_ne hplace]
  · intro found _
    rfl

theorem remove_of_lookup {found : Place} {object : Nat}
    (h : fs.lookup path = .ok (found, .file object)) :
    fs.remove path = .ok (fs.setNode found none) := by
  unfold remove
  rw [h]
  rfl

theorem locate_of_unlinked {object : Nat}
    (hlocate : fs.locate path = .ok (path.place, some (.file object))) :
    (fs.setNode path.place none).locate path = .ok (path.place, none) := by
  have hfile : fs.node? path.place ≠ some .directory := by simp [← (locate_ok hlocate).2]
  rw [locate_of_directories ?_ hlocate, node?_setNode_self (not_all_up_of_node? hfile)]
  intro place hplace
  have hne : place ≠ path.place := by
    rintro rfl
    exact hfile hplace
  rw [node?_setNode_ne hne, hplace]

/-- A path leads nowhere when its file has lost its name. -/
theorem lookup_of_unlinked {object : Nat}
    (hlocate : fs.locate path = .ok (path.place, some (.file object))) :
    (fs.setNode path.place none).lookup path = .error (.system .noEntry) :=
  lookup_of_locate_none (locate_of_unlinked hlocate)

/-! ### All calls -/

theorem setMode_ok {mode : Nat} (h : fs.setMode path mode = .ok grown) :
    grown = fs ∨ ∃ object file, fs.object? object = some file ∧
      grown = fs.setObject object { file with mode } := by
  obtain ⟨⟨found, node⟩, _, h⟩ := exists_of_bind_ok h
  cases node with
  | directory =>
      cases h
      exact Or.inl rfl
  | file object =>
      dsimp only at h
      split at h
      · next file hfile =>
          cases h
          exact Or.inr ⟨object, file, hfile, rfl⟩
      · cases h
        exact Or.inl rfl

theorem change_sound {result : Except IoFault FileSystem} (hsound : fs.Sound)
    (h : ∀ grown, result = .ok grown → grown.Sound) : (fs.change result).2.Sound := by
  cases result with
  | ok grown => exact h grown rfl
  | error fault => exact hsound

/-- No call makes a file system unsound. -/
theorem answer_sound (hsound : fs.Sound) (call : FileCall) : (fs.answer call).2.Sound := by
  cases call with
  | makeDirectories path =>
      exact change_sound hsound fun grown h => (makeDirectories_adds h).sound hsound
  | openTruncated path mode =>
      cases hopened : fs.openTruncated path mode with
      | error fault => simpa [answer, hopened] using hsound
      | ok result => simpa [answer, hopened] using openTruncated_sound hsound hopened
  | openExisting path => exact hsound
  | overwrite object data => exact overwrite_sound hsound object data
  | sync object => exact hsound
  | setMode path mode =>
      apply change_sound hsound
      intro grown h
      rcases setMode_ok h with rfl | ⟨object, file, _, rfl⟩
      · exact hsound
      · exact setObject_sound hsound object _
  | length path => exact hsound
  | remove path => exact change_sound hsound fun grown h => remove_sound hsound h
  | read path => exact hsound

end WorkloadIdentity.FileSystem
