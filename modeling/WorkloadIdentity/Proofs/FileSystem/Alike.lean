import WorkloadIdentity.Proofs.FileSystem.Frame

/-!
File systems that look alike. The number of a file object is nothing that a reader gets to see, so
two file systems are alike if there is the same at every place: nothing, a directory, or a file
with the same content and mode. Calls that neither take nor give a number are answered alike and
leave them alike.
-/

namespace WorkloadIdentity.FileSystem

variable {fs other grown : FileSystem} {place : Place} {path : Path} {file : FileObject}

/-- What there is at a place, as it can be seen. -/
inductive Entry where
  | directory
  | file (file : FileObject)

def entryAt (fs : FileSystem) (place : Place) : Option Entry :=
  match fs.node? place with
  | none => none
  | some .directory => some .directory
  | some (.file object) => (fs.object? object).map .file

structure Alike (fs other : FileSystem) : Prop where
  sound : fs.Sound
  soundOther : other.Sound
  entries : ∀ place, fs.entryAt place = other.entryAt place

theorem entryAt_of_directory (h : fs.node? place = some .directory) :
    fs.entryAt place = some .directory := by
  rw [entryAt, h]

theorem entryAt_of_file {object : Nat} (h : fs.node? place = some (.file object)) :
    fs.entryAt place = (fs.object? object).map .file := by
  rw [entryAt, h]

theorem entryAt_of_none (h : fs.node? place = none) : fs.entryAt place = none := by
  rw [entryAt, h]

theorem not_all_up_of_file {object : Nat} (h : fs.node? place = some (.file object)) :
    place.names.all (· == "..") = false := by
  have hfile : fs.node? place ≠ some .directory := by simp [h]
  exact not_all_up_of_node? hfile

/-- A name of a file leads to its content. -/
theorem Sound.exists_object (hsound : fs.Sound) {object : Nat}
    (h : fs.node? place = some (.file object)) : ∃ file, fs.object? object = some file :=
  ⟨_, List.getElem?_eq_getElem (hsound.inRange place object h)⟩

theorem entryAt_congr (hnode : grown.node? place = fs.node? place)
    (hobject : ∀ object, fs.node? place = some (.file object) →
      grown.object? object = fs.object? object) :
    grown.entryAt place = fs.entryAt place := by
  unfold entryAt
  rw [hnode]
  cases hthere : fs.node? place with
  | none => rfl
  | some node =>
      cases node with
      | directory => rfl
      | file object => simp only [hobject object hthere]

namespace Alike

/-- What two file systems that are alike have at a place. -/
theorem cases (h : fs.Alike other) (place : Place) :
    (fs.node? place = none ∧ other.node? place = none) ∨
    (fs.node? place = some .directory ∧ other.node? place = some .directory) ∨
    ∃ object twin file, fs.node? place = some (.file object) ∧
      other.node? place = some (.file twin) ∧ fs.object? object = some file ∧
      other.object? twin = some file := by
  have hentry := h.entries place
  cases hnode : fs.node? place with
  | none =>
      rw [entryAt_of_none hnode] at hentry
      cases htwin : other.node? place with
      | none => exact Or.inl ⟨rfl, rfl⟩
      | some node =>
          cases node with
          | directory => simp [entryAt_of_directory htwin] at hentry
          | file twin =>
              obtain ⟨file, hfile⟩ := h.soundOther.exists_object htwin
              simp [entryAt_of_file htwin, hfile] at hentry
  | some node =>
      cases node with
      | directory =>
          rw [entryAt_of_directory hnode] at hentry
          cases htwin : other.node? place with
          | none => simp [entryAt_of_none htwin] at hentry
          | some node =>
              cases node with
              | directory => exact Or.inr (Or.inl ⟨rfl, rfl⟩)
              | file twin =>
                  obtain ⟨file, hfile⟩ := h.soundOther.exists_object htwin
                  simp [entryAt_of_file htwin, hfile] at hentry
      | file object =>
          obtain ⟨file, hfile⟩ := h.sound.exists_object hnode
          rw [entryAt_of_file hnode, hfile] at hentry
          cases htwin : other.node? place with
          | none => simp [entryAt_of_none htwin] at hentry
          | some node =>
              cases node with
              | directory => simp [entryAt_of_directory htwin] at hentry
              | file twin =>
                  obtain ⟨same, hsame⟩ := h.soundOther.exists_object htwin
                  simp only [entryAt_of_file htwin, hsame, Option.map_some, Option.some.injEq,
                    Entry.file.injEq] at hentry
                  subst hentry
                  exact Or.inr (Or.inr ⟨object, twin, file, rfl, rfl, hfile, hsame⟩)

/-! ### Looking -/

theorem walk_place (h : fs.Alike other) (start : Place) (names : List String) :
    (fs.walk start names).map Prod.fst = (other.walk start names).map Prod.fst := by
  induction names generalizing start with
  | nil => rfl
  | cons name rest ih =>
      cases rest with
      | nil =>
          unfold FileSystem.walk
          split <;> rfl
      | cons next rest =>
          unfold FileSystem.walk
          split
          · rfl
          · rcases h.cases (start.child name) with ⟨hnode, htwin⟩ | ⟨hnode, htwin⟩ |
              ⟨object, twin, file, hnode, htwin, _, _⟩
            · rw [hnode, htwin]
            · rw [hnode, htwin]
              exact ih _
            · rw [hnode, htwin]

theorem locate_place (h : fs.Alike other) (path : Path) :
    (fs.locate path).map Prod.fst = (other.locate path).map Prod.fst := by
  have hwalk := h.walk_place ⟨Path.isAbsolute path, []⟩ (Path.names path)
  unfold FileSystem.locate
  split
  · rfl
  · split
    · rfl
    · split
      · rfl
      · have hplace (r : Except SystemFault (Place × Option Node)) :
            (r.mapError IoFault.system).map Prod.fst = (r.map Prod.fst).mapError .system := by
          cases r with
          | error _ => rfl
          | ok _ => rfl
        rw [hplace, hplace, hwalk]

/-- A path leads to the same in both. -/
theorem locate_cases (h : fs.Alike other) (path : Path) :
    (∃ fault, fs.locate path = .error fault ∧ other.locate path = .error fault) ∨
    (fs.locate path = .ok (path.place, none) ∧ other.locate path = .ok (path.place, none)) ∨
    (fs.locate path = .ok (path.place, some .directory) ∧
      other.locate path = .ok (path.place, some .directory)) ∨
    ∃ object twin file, fs.locate path = .ok (path.place, some (.file object)) ∧
      other.locate path = .ok (path.place, some (.file twin)) ∧
      fs.object? object = some file ∧ other.object? twin = some file := by
  have hplaces := h.locate_place path
  cases hfirst : fs.locate path with
  | error fault =>
      cases hsecond : other.locate path with
      | error same =>
          rw [hfirst, hsecond] at hplaces
          cases hplaces
          exact Or.inl ⟨fault, rfl, rfl⟩
      | ok result => simp [hfirst, hsecond, Except.map] at hplaces
  | ok found =>
      cases hsecond : other.locate path with
      | error fault => simp [hfirst, hsecond, Except.map] at hplaces
      | ok result =>
          obtain ⟨_, node⟩ := found
          obtain ⟨_, same⟩ := result
          obtain ⟨rfl, rfl⟩ := locate_ok hfirst
          obtain ⟨rfl, rfl⟩ := locate_ok hsecond
          right
          rcases h.cases path.place with ⟨hnode, htwin⟩ | ⟨hnode, htwin⟩ |
            ⟨object, twin, file, hnode, htwin, hfiles⟩
          · exact Or.inl ⟨by rw [hnode], by rw [htwin]⟩
          · exact Or.inr (Or.inl ⟨by rw [hnode], by rw [htwin]⟩)
          · exact Or.inr (Or.inr ⟨object, twin, file, by rw [hnode], by rw [htwin], hfiles⟩)

theorem lookup_cases (h : fs.Alike other) (path : Path) :
    (∃ fault, fs.lookup path = .error fault ∧ other.lookup path = .error fault) ∨
    (fs.lookup path = .ok (path.place, .directory) ∧
      other.lookup path = .ok (path.place, .directory)) ∨
    ∃ object twin file, fs.lookup path = .ok (path.place, .file object) ∧
      other.lookup path = .ok (path.place, .file twin) ∧
      fs.object? object = some file ∧ other.object? twin = some file := by
  rcases h.locate_cases path with ⟨fault, hfirst, hsecond⟩ | ⟨hfirst, hsecond⟩ |
    ⟨hfirst, hsecond⟩ | ⟨object, twin, file, hfirst, hsecond, hfiles⟩
  · exact Or.inl ⟨fault, lookup_of_locate_error hfirst, lookup_of_locate_error hsecond⟩
  · exact Or.inl ⟨_, lookup_of_locate_none hfirst, lookup_of_locate_none hsecond⟩
  · right
    left
    constructor
    · rw [lookup, hfirst]
      rfl
    · rw [lookup, hsecond]
      rfl
  · rw [lookup_of_locate_file hfirst, lookup_of_locate_file hsecond]
    split
    · exact Or.inl ⟨_, rfl, rfl⟩
    · exact Or.inr (Or.inr ⟨object, twin, file, rfl, rfl, hfiles⟩)

theorem read (h : fs.Alike other) (path : Path) : fs.read path = other.read path := by
  unfold FileSystem.read
  rcases h.lookup_cases path with ⟨fault, hfirst, hsecond⟩ | ⟨hfirst, hsecond⟩ |
    ⟨object, twin, file, hfirst, hsecond, hobject, htwin⟩
  · rw [hfirst, hsecond]
    rfl
  · rw [hfirst, hsecond]
    rfl
  · rw [hfirst, hsecond]
    show Except.ok _ = Except.ok _
    rw [hobject, htwin]

theorem isDirectory (h : fs.Alike other) (path : Path) :
    fs.isDirectory path = other.isDirectory path := by
  unfold FileSystem.isDirectory
  rcases h.lookup_cases path with ⟨fault, hfirst, hsecond⟩ | ⟨hfirst, hsecond⟩ |
    ⟨object, twin, file, hfirst, hsecond, _⟩ <;> rw [hfirst, hsecond]

theorem file? (h : fs.Alike other) (path : Path) : fs.file? path = other.file? path := by
  unfold FileSystem.file?
  rcases h.lookup_cases path with ⟨fault, hfirst, hsecond⟩ | ⟨hfirst, hsecond⟩ |
    ⟨object, twin, file, hfirst, hsecond, hobject, htwin⟩
  · rw [hfirst, hsecond]
  · rw [hfirst, hsecond]
  · rw [hfirst, hsecond]
    exact hobject.trans htwin.symm

end Alike

/-! ### Changes at one place -/

theorem entryAt_setNode_ne {changed : Place} (h : place ≠ changed) (node : Option Node) :
    (fs.setNode changed node).entryAt place = fs.entryAt place :=
  entryAt_congr (node?_setNode_ne h node) fun _ _ => rfl

theorem entryAt_setObject_ne {changed : Place} {object : Nat} (hsound : fs.Sound)
    (hnode : fs.node? changed = some (.file object)) (h : place ≠ changed) (file : FileObject) :
    (fs.setObject object file).entryAt place = fs.entryAt place := by
  refine entryAt_congr (node?_setObject fs object file) ?_
  intro there hthere
  apply object?_setObject_ne
  rintro rfl
  exact h (hsound.distinct place changed there hthere hnode)

theorem entryAt_setObject_self {object : Nat} (hsound : fs.Sound)
    (hnode : fs.node? place = some (.file object)) (file : FileObject) :
    (fs.setObject object file).entryAt place = some (.file file) := by
  have hchanged : (fs.setObject object file).node? place = some (.file object) := hnode
  rw [entryAt_of_file hchanged, object?_setObject_self (hsound.inRange place object hnode)]
  rfl

/-- A name for a new file is nothing to any other place. -/
theorem entryAt_create_ne {changed : Place} (hsound : fs.Sound) (h : place ≠ changed)
    (file : FileObject) :
    (FileSystem.setNode { fs with objects := fs.objects ++ [file] } changed
      (some (.file fs.objects.length))).entryAt place = fs.entryAt place := by
  rw [entryAt_setNode_ne h]
  have hnode : FileSystem.node? { fs with objects := fs.objects ++ [file] } place =
      fs.node? place := rfl
  refine entryAt_congr hnode ?_
  intro object hobject
  exact List.getElem?_append_left (hsound.inRange place object hobject)

theorem entryAt_create_self (hnone : fs.node? place = none) (file : FileObject) :
    (FileSystem.setNode { fs with objects := fs.objects ++ [file] } place
      (some (.file fs.objects.length))).entryAt place = some (.file file) := by
  have hempty : fs.node? place ≠ some .directory := by simp [hnone]
  rw [entryAt_of_file (node?_setNode_self (not_all_up_of_node? hempty) _)]
  show ((fs.objects ++ [file])[fs.objects.length]?).map Entry.file = some (.file file)
  simp

namespace Alike

/-- A change at one place to what is alike. -/
theorem of_changes {changed twin : FileSystem} (h : fs.Alike other) (place : Place)
    (hsound : changed.Sound) (hsoundTwin : twin.Sound)
    (hplace : changed.entryAt place = twin.entryAt place)
    (hchanged : ∀ beside, beside ≠ place → changed.entryAt beside = fs.entryAt beside)
    (htwin : ∀ beside, beside ≠ place → twin.entryAt beside = other.entryAt beside) :
    changed.Alike twin := by
  refine ⟨hsound, hsoundTwin, ?_⟩
  intro beside
  by_cases hbeside : beside = place
  · rw [hbeside, hplace]
  · rw [hchanged beside hbeside, htwin beside hbeside, h.entries beside]

theorem setObject {object twin : Nat} (h : fs.Alike other)
    (hnode : fs.node? place = some (.file object)) (htwin : other.node? place = some (.file twin))
    (file : FileObject) : (fs.setObject object file).Alike (other.setObject twin file) := by
  refine h.of_changes place (setObject_sound h.sound _ _) (setObject_sound h.soundOther _ _)
    ?_ ?_ ?_
  · rw [entryAt_setObject_self h.sound hnode, entryAt_setObject_self h.soundOther htwin]
  · intro beside hbeside
    exact entryAt_setObject_ne h.sound hnode hbeside file
  · intro beside hbeside
    exact entryAt_setObject_ne h.soundOther htwin hbeside file

theorem overwrite {object twin : Nat} (h : fs.Alike other)
    (hnode : fs.node? place = some (.file object)) (htwin : other.node? place = some (.file twin))
    (data : Bytes) : (fs.overwrite object data).Alike (other.overwrite twin data) := by
  rcases h.cases place with ⟨hnone, _⟩ | ⟨hdirectory, _⟩ |
    ⟨number, same, file, hnumber, hsame, hobject, hother⟩
  · simp [hnone] at hnode
  · simp [hdirectory] at hnode
  · cases hnode.symm.trans hnumber
    cases htwin.symm.trans hsame
    unfold FileSystem.overwrite
    rw [hobject, hother]
    exact h.setObject hnode htwin _

end Alike

/-! ### Calls -/

/-- Both fail in the same way, or come to file systems that are alike. -/
inductive AlikeResults : Except IoFault FileSystem → Except IoFault FileSystem → Prop
  | fail (fault : IoFault) : AlikeResults (.error fault) (.error fault)
  | come {fs other : FileSystem} : fs.Alike other → AlikeResults (.ok fs) (.ok other)

namespace Alike

theorem makeDirectory (h : fs.Alike other) (path : Path) :
    AlikeResults (fs.makeDirectory path) (other.makeDirectory path) := by
  rcases h.locate_cases path with ⟨fault, hfirst, hsecond⟩ | ⟨hfirst, hsecond⟩ |
    ⟨hfirst, hsecond⟩ | ⟨object, twin, file, hfirst, hsecond, _⟩
  · rw [FileSystem.makeDirectory, FileSystem.makeDirectory, hfirst, hsecond]
    exact .fail fault
  · have hmade : fs.makeDirectory path = .ok (fs.setNode path.place (some .directory)) := by
      rw [FileSystem.makeDirectory, hfirst]
      rfl
    have htwin : other.makeDirectory path = .ok (other.setNode path.place (some .directory)) := by
      rw [FileSystem.makeDirectory, hsecond]
      rfl
    have hempty : fs.node? path.place ≠ some .directory := by simp [← (locate_ok hfirst).2]
    have hup := not_all_up_of_node? hempty
    rw [hmade, htwin]
    refine .come (h.of_changes path.place ((makeDirectory_adds hmade).sound h.sound)
      ((makeDirectory_adds htwin).sound h.soundOther) ?_ ?_ ?_)
    · rw [entryAt_of_directory (node?_setNode_self hup _),
        entryAt_of_directory (node?_setNode_self hup _)]
    · intro beside hbeside
      exact entryAt_setNode_ne hbeside _
    · intro beside hbeside
      exact entryAt_setNode_ne hbeside _
  · rw [FileSystem.makeDirectory, FileSystem.makeDirectory, hfirst, hsecond]
    exact .fail _
  · rw [FileSystem.makeDirectory, FileSystem.makeDirectory, hfirst, hsecond]
    exact .fail _

theorem makeSteps (h : fs.Alike other) (absolute : Bool) (steps : List String) :
    AlikeResults (fs.makeSteps absolute steps) (other.makeSteps absolute steps) := by
  induction steps generalizing fs other with
  | nil => exact .come h
  | cons name above ih =>
      unfold FileSystem.makeSteps
      dsimp only
      generalize (if absolute = true then "/" ++ "/".intercalate (name :: above).reverse
        else "/".intercalate (name :: above).reverse) = path
      have hmake := h.makeDirectory path
      generalize fs.makeDirectory path = first at hmake
      generalize other.makeDirectory path = second at hmake
      cases hmake with
      | come halike => exact .come halike
      | fail fault =>
          dsimp only
          split
          · have habove := ih h
            generalize fs.makeSteps absolute above = made at habove
            generalize other.makeSteps absolute above = twin at habove
            cases habove with
            | fail fault => exact .fail fault
            | @come made twin halike =>
                dsimp only [bind, Except.bind]
                have hlast := halike.makeDirectory path
                rw [halike.isDirectory path]
                generalize made.makeDirectory path = first at hlast
                generalize twin.makeDirectory path = second at hlast
                cases hlast with
                | come hdone => exact .come hdone
                | fail fault =>
                    dsimp only
                    split
                    · exact .come halike
                    · exact .fail fault
          · rw [h.isDirectory path]
            split
            · exact .come h
            · exact .fail fault

theorem makeDirectories (h : fs.Alike other) (path : Path) :
    AlikeResults (fs.makeDirectories path) (other.makeDirectories path) := by
  unfold FileSystem.makeDirectories
  split
  · exact .fail _
  · exact h.makeSteps _ _

/-- Opening a file fails in both, or gives each its own number for the same. -/
theorem openTruncated (h : fs.Alike other) (path : Path) (mode : Nat) :
    (∃ fault, fs.openTruncated path mode = .error fault ∧
      other.openTruncated path mode = .error fault) ∨
    ∃ object twin opened same, fs.openTruncated path mode = .ok (object, opened) ∧
      other.openTruncated path mode = .ok (twin, same) ∧ opened.Alike same := by
  rcases h.locate_cases path with ⟨fault, hfirst, hsecond⟩ | ⟨hfirst, hsecond⟩ |
    ⟨hfirst, hsecond⟩ | ⟨object, twin, file, hfirst, hsecond, hobject, htwin⟩
  · left
    unfold FileSystem.openTruncated
    rw [hfirst, hsecond]
    exact ⟨fault, rfl, rfl⟩
  · cases hasks : Path.asksDirectory path with
    | true =>
        left
        unfold FileSystem.openTruncated
        rw [hfirst, hsecond, hasks]
        exact ⟨_, rfl, rfl⟩
    | false =>
        have hopened := openTruncated_of_none hfirst hasks mode
        have hsame := openTruncated_of_none hsecond hasks mode
        refine Or.inr ⟨_, _, _, _, hopened, hsame, h.of_changes path.place
          (openTruncated_sound h.sound hopened) (openTruncated_sound h.soundOther hsame)
          ?_ ?_ ?_⟩
        · rw [entryAt_create_self (locate_ok hfirst).2.symm,
            entryAt_create_self (locate_ok hsecond).2.symm]
        · intro beside hbeside
          exact entryAt_create_ne h.sound hbeside _
        · intro beside hbeside
          exact entryAt_create_ne h.soundOther hbeside _
  · left
    unfold FileSystem.openTruncated
    rw [hfirst, hsecond]
    exact ⟨_, rfl, rfl⟩
  · cases hasks : Path.asksDirectory path with
    | true =>
        left
        unfold FileSystem.openTruncated
        rw [hfirst, hsecond, hasks]
        exact ⟨_, rfl, rfl⟩
    | false =>
        exact Or.inr ⟨_, _, _, _, openTruncated_of_file hfirst hasks hobject mode,
          openTruncated_of_file hsecond hasks htwin mode,
          h.setObject (locate_ok hfirst).2.symm (locate_ok hsecond).2.symm _⟩

theorem put (h : fs.Alike other) (path : Path) (content : Bytes) (mode : Nat) :
    AlikeResults (fs.put path content mode) (other.put path content mode) := by
  unfold FileSystem.put
  have hmade := h.makeDirectories ((Path.parent? path).getD "")
  generalize fs.makeDirectories ((Path.parent? path).getD "") = first at hmade
  generalize other.makeDirectories ((Path.parent? path).getD "") = second at hmade
  cases hmade with
  | fail fault => exact .fail fault
  | @come made twin halike =>
      rcases halike.openTruncated path mode with ⟨fault, hfirst, hsecond⟩ |
        ⟨object, number, opened, same, hfirst, hsecond, hopened⟩
      · show AlikeResults (made.openTruncated path mode >>= _) (twin.openTruncated path mode >>= _)
        rw [hfirst, hsecond]
        exact .fail fault
      · show AlikeResults (made.openTruncated path mode >>= _) (twin.openTruncated path mode >>= _)
        rw [hfirst, hsecond]
        exact .come (hopened.overwrite (locate_ok (openTruncated_locate hfirst)).2.symm
          (locate_ok (openTruncated_locate hsecond)).2.symm content)

theorem remove (h : fs.Alike other) (path : Path) :
    AlikeResults (fs.remove path) (other.remove path) := by
  rcases h.lookup_cases path with ⟨fault, hfirst, hsecond⟩ | ⟨hfirst, hsecond⟩ |
    ⟨object, twin, file, hfirst, hsecond, _⟩
  · unfold FileSystem.remove
    rw [hfirst, hsecond]
    exact .fail fault
  · unfold FileSystem.remove
    rw [hfirst, hsecond]
    exact .fail _
  · have hremoved := remove_of_lookup hfirst
    have hgone := remove_of_lookup hsecond
    have hup := not_all_up_of_file (locate_ok (lookup_ok hfirst)).2.symm
    rw [hremoved, hgone]
    refine .come (h.of_changes path.place (remove_sound h.sound hremoved)
      (remove_sound h.soundOther hgone) ?_ ?_ ?_)
    · rw [entryAt_of_none (node?_setNode_self hup none), entryAt_of_none (node?_setNode_self hup none)]
    · intro beside hbeside
      exact entryAt_setNode_ne hbeside none
    · intro beside hbeside
      exact entryAt_setNode_ne hbeside none

end Alike

/-! ### What a removal leaves -/

/-- There is nothing at a path, or a file that can be reached. -/
def Clearable (fs : FileSystem) (path : Path) : Prop :=
  fs.node? path.place = none ∨ ∃ object, fs.lookup path = .ok (path.place, .file object)

/-- No file is left where one has been read. -/
theorem exists?_of_removed {content : Bytes} (h : fs.read path = .ok content) :
    (fs.answer (.remove path)).2.exists? path = false := by
  obtain ⟨⟨found, node⟩, hlookup, h⟩ := exists_of_bind_ok h
  cases node with
  | directory => cases h
  | file object =>
      have hlocate := lookup_ok hlookup
      obtain ⟨rfl, _⟩ := locate_ok hlocate
      have hleft : (fs.answer (.remove path)).2 = fs.setNode path.place none := by
        simp [answer, remove_of_lookup hlookup, change]
      rw [hleft, exists?, lookup_of_unlinked hlocate]
      rfl

/-- What a removal leaves at a path, and that all else stays. -/
theorem entryAt_of_removed (h : fs.Clearable path) :
    (fs.answer (.remove path)).2.entryAt path.place = none ∧
      ∀ place, place ≠ path.place → (fs.answer (.remove path)).2.entryAt place = fs.entryAt place := by
  rcases h with hnone | ⟨object, hlookup⟩
  · have hkept : (fs.answer (.remove path)).2 = fs := by
      cases hremoved : fs.remove path with
      | error fault => simp [answer, hremoved, change]
      | ok grown =>
          obtain ⟨object, hfile, _⟩ := remove_ok hremoved
          simp [hnone] at hfile
    rw [hkept]
    exact ⟨entryAt_of_none hnone, fun _ _ => rfl⟩
  · have hleft : (fs.answer (.remove path)).2 = fs.setNode path.place none := by
      simp [answer, remove_of_lookup hlookup, change]
    have hup := not_all_up_of_file (locate_ok (lookup_ok hlookup)).2.symm
    rw [hleft]
    refine ⟨entryAt_of_none (node?_setNode_self hup none), ?_⟩
    intro place hplace
    exact entryAt_setNode_ne hplace none

/-- File systems that differ in nothing but the file at a path, of any content and mode; there may
be none. -/
structure DifferAt (path : Path) (fs other : FileSystem) : Prop where
  sound : fs.Sound
  soundOther : other.Sound
  clearable : fs.Clearable path
  clearableOther : other.Clearable path
  elsewhere : ∀ place, place ≠ path.place → fs.entryAt place = other.entryAt place

theorem DifferAt.removed (h : DifferAt path fs other) :
    (fs.answer (.remove path)).2.Alike (other.answer (.remove path)).2 := by
  obtain ⟨hnone, hkept⟩ := entryAt_of_removed h.clearable
  obtain ⟨hnoneOther, hkeptOther⟩ := entryAt_of_removed h.clearableOther
  refine ⟨answer_sound h.sound _, answer_sound h.soundOther _, ?_⟩
  intro place
  by_cases hplace : place = path.place
  · rw [hplace, hnone, hnoneOther]
  · rw [hkept place hplace, hkeptOther place hplace, h.elsewhere place hplace]

/-- A new file at a path where there is none. -/
theorem differAt_create (hsound : fs.Sound) (hlocate : fs.locate path = .ok (path.place, none))
    (hasks : Path.asksDirectory path = false) (file : FileObject) :
    DifferAt path fs (FileSystem.setNode { fs with objects := fs.objects ++ [file] } path.place
      (some (.file fs.objects.length))) := by
  have hnone := (locate_ok hlocate).2.symm
  have hempty : fs.node? path.place ≠ some .directory := by simp [hnone]
  have hreached : (FileSystem.setNode { fs with objects := fs.objects ++ [file] } path.place
      (some (.file fs.objects.length))).locate path =
        .ok (path.place, some (.file fs.objects.length)) := by
    rw [locate_of_directories ?_ hlocate, node?_setNode_self (not_all_up_of_node? hempty)]
    intro other hother
    have hne : other ≠ path.place := by
      rintro rfl
      exact hempty hother
    exact (node?_setNode_ne hne _).trans hother
  refine ⟨hsound, create_sound hsound file hnone (parent_of_locate_none hsound hlocate),
    Or.inl hnone, Or.inr ⟨fs.objects.length, ?_⟩, ?_⟩
  · rw [lookup_of_locate_file hreached, hasks]
    rfl
  · intro place hplace
    exact (entryAt_create_ne hsound hplace file).symm

end WorkloadIdentity.FileSystem
