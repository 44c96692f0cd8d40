import WorkloadIdentity.Proofs.FileSystem.Erasure

/-!
A token's file that nobody else touches is a slot for one token. It is either free, so that a write
makes the file, or holds a token, in a file of that content for its owner alone. The directories
that the first write makes stay, so after a deletion the slot is free again.
-/

namespace WorkloadIdentity

open FileSystem

variable {fs grown made : FileSystem} {path : Path} {data : Bytes}

namespace FileSystem

/-! ### Directories that are there already -/

theorem isDirectory_iff :
    fs.isDirectory path = true ↔ fs.locate path = .ok (path.place, some .directory) := by
  unfold isDirectory
  constructor
  · intro h
    split at h
    · next found hlookup =>
        have hlocate := lookup_ok hlookup
        obtain ⟨rfl, _⟩ := locate_ok hlocate
        exact hlocate
    · cases h
  · intro h
    rw [lookup, h]
    rfl

/-- A change that keeps all directories. -/
def KeepsDirectories (fs grown : FileSystem) : Prop :=
  ∀ place, fs.node? place = some .directory → grown.node? place = some .directory

theorem KeepsDirectories.isDirectory (h : KeepsDirectories fs grown)
    (hdirectory : fs.isDirectory path = true) : grown.isDirectory path = true := by
  have hlocate := isDirectory_iff.mp hdirectory
  rw [isDirectory_iff, locate_of_directories h hlocate, h _ (locate_ok hlocate).2.symm]

theorem openTruncated_keeps {mode object : Nat}
    (h : fs.openTruncated path mode = .ok (object, grown)) : KeepsDirectories fs grown := by
  obtain ⟨_, ⟨_, kept, rfl⟩ | ⟨hlocate, rfl, rfl⟩⟩ := openTruncated_ok h
  · intro place hplace
    exact hplace
  · intro place hplace
    have hne : place ≠ path.place := by
      rintro rfl
      rw [← (locate_ok hlocate).2] at hplace
      cases hplace
    exact (node?_setNode_ne hne _).trans hplace

theorem makeDirectory_isDirectory (h : fs.makeDirectory path = .ok grown) :
    grown.isDirectory path = true := by
  obtain ⟨⟨found, node⟩, hlocate, h⟩ := exists_of_bind_ok h
  obtain ⟨rfl, hnode⟩ := locate_ok hlocate
  cases node with
  | some node => cases h
  | none =>
      cases h
      have hempty : fs.node? path.place ≠ some .directory := by simp [← hnode]
      rw [isDirectory_iff, locate_of_directories ?_ hlocate,
        node?_setNode_self (not_all_up_of_node? hempty)]
      intro place hplace
      have hne : place ≠ path.place := by
        rintro rfl
        exact hempty hplace
      rw [node?_setNode_ne hne, hplace]

/-- What has been made is there, or was there before. -/
theorem makeSteps_isDirectory {absolute : Bool} {steps : List String} (hsteps : steps ≠ [])
    (h : fs.makeSteps absolute steps = .ok grown) :
    grown.isDirectory (Path.ofNames absolute steps.reverse) = true := by
  cases steps with
  | nil => exact (hsteps rfl).elim
  | cons name above =>
      obtain ⟨below, _, hmade | ⟨hthere, rfl⟩⟩ := makeSteps_cases h
      · exact makeDirectory_isDirectory hmade
      · exact hthere

theorem makeSteps_of_isDirectory {absolute : Bool} {steps : List String} (hsteps : steps ≠ [])
    (h : fs.isDirectory (Path.ofNames absolute steps.reverse) = true) :
    fs.makeSteps absolute steps = .ok fs := by
  cases steps with
  | nil => exact (hsteps rfl).elim
  | cons name above =>
      have hmake : fs.makeDirectory (Path.ofNames absolute (name :: above).reverse) =
          .error (.system .fileExists) := by
        unfold makeDirectory
        rw [isDirectory_iff.mp h]
        rfl
      unfold makeSteps
      dsimp only
      rw [show (if absolute = true then "/" ++ "/".intercalate (name :: above).reverse
        else "/".intercalate (name :: above).reverse) =
          Path.ofNames absolute (name :: above).reverse from rfl, hmake]
      dsimp only
      rw [h]
      rfl

/-- A directory can be made, and is there already. -/
structure HasDirectories (fs : FileSystem) (path : Path) : Prop where
  plain : ¬path.toList.contains '\x00' = true
  there : Path.steps path ≠ [] →
    fs.isDirectory (Path.ofNames (Path.isAbsolute path) (Path.steps path)) = true

theorem hasDirectories_of_made (h : fs.makeDirectories path = .ok grown) :
    grown.HasDirectories path := by
  unfold makeDirectories at h
  split at h
  · cases h
  · next hplain =>
      refine ⟨hplain, ?_⟩
      intro hsteps
      have hmade := makeSteps_isDirectory (by simpa using hsteps) h
      rwa [List.reverse_reverse] at hmade

theorem HasDirectories.makeDirectories (h : fs.HasDirectories path) :
    fs.makeDirectories path = .ok fs := by
  unfold FileSystem.makeDirectories
  rw [if_neg h.plain]
  by_cases hsteps : Path.steps path = []
  · rw [hsteps]
    rfl
  · apply makeSteps_of_isDirectory (by simpa using hsteps)
    rw [List.reverse_reverse]
    exact h.there hsteps

/-- The directories that a path lies in are there. -/
def HasParents (fs : FileSystem) (path : Path) : Prop :=
  ∀ parent, Path.parent? path = some parent → parent ≠ "" → fs.HasDirectories parent

theorem hasParents_of_made (h : fs.makeParents path = .ok grown) : grown.HasParents path := by
  intro parent hparent hname
  unfold makeParents at h
  rw [hparent] at h
  dsimp only at h
  rw [if_pos hname] at h
  exact hasDirectories_of_made h

theorem HasParents.makeParents (h : fs.HasParents path) : fs.makeParents path = .ok fs := by
  unfold FileSystem.makeParents
  split
  · next parent hparent =>
      split
      · next hname => exact (h parent hparent hname).makeDirectories
      · rfl
  · rfl

theorem HasParents.mono (h : fs.HasParents path) (hkeeps : KeepsDirectories fs grown) :
    grown.HasParents path := by
  intro parent hparent hname
  obtain ⟨hplain, hthere⟩ := h parent hparent hname
  exact ⟨hplain, fun hsteps => hkeeps.isDirectory (hthere hsteps)⟩

/-! ### The slot -/

/-- There is nothing at a file's path. The directories that it lies in are there or can be made, and
the path leads to a free place in them. -/
structure Creatable (fs : FileSystem) (path : Path) : Prop where
  sound : fs.Sound
  plain : Path.asksDirectory path = false
  absent : fs.lookup path = .error (.system .noEntry)
  parents : ∃ made, fs.makeParents path = .ok made ∧ made.locate path = .ok (path.place, none)

/-- There is a file at a path, with this content and for its owner alone. -/
structure Holds (fs : FileSystem) (path : Path) (data : Bytes) : Prop where
  sound : fs.Sound
  parents : fs.HasParents path
  file : ∃ object, fs.lookup path = .ok (path.place, .file object) ∧
    fs.object? object = some ⟨data, ownerOnly⟩

theorem Creatable.opens (h : fs.Creatable path) : ∃ made result,
    fs.makeParents path = .ok made ∧ made.openTruncated path ownerOnly = .ok result := by
  obtain ⟨made, hmade, hlocate⟩ := h.parents
  exact ⟨made, _, hmade, openTruncated_of_none hlocate h.plain ownerOnly⟩

theorem Holds.file? (h : fs.Holds path data) : fs.file? path = some ⟨data, ownerOnly⟩ := by
  obtain ⟨object, hlookup, hobject⟩ := h.file
  rw [FileSystem.file?, hlookup]
  exact hobject

theorem Holds.read (h : fs.Holds path data) : fs.read path = .ok data := by
  obtain ⟨object, hlookup, hobject⟩ := h.file
  rw [FileSystem.read, hlookup]
  show Except.ok ((fs.object? object).map (·.content) |>.getD []) = .ok data
  rw [hobject]
  rfl

theorem Holds.opens (h : fs.Holds path data) : ∃ made result, fs.makeParents path = .ok made ∧
    made.openTruncated path ownerOnly = .ok result := by
  obtain ⟨result, hopened⟩ := openTruncated_of_read h.read ownerOnly
  exact ⟨fs, result, h.parents.makeParents, hopened⟩

theorem setMode_of_lookup {found : Place} {object mode : Nat} {file : FileObject}
    (hlookup : fs.lookup path = .ok (found, .file object)) (hfile : fs.object? object = some file) :
    fs.setMode path mode = .ok (fs.setObject object { file with mode }) := by
  unfold setMode
  simp only [hlookup, hfile, bind, Except.bind]

end FileSystem

namespace TokenFile

/-- However the file was before, a write that succeeds leaves the token in it, for its owner
alone. -/
theorem holds_of_write (hsound : fs.Sound)
    (h : (write path data).run.run FileSystem.answer fs = (.ok (), grown)) :
    grown.Holds path data := by
  have hgrown : grown.Sound := by
    have hrun := run_sound (write path data).run hsound
    rwa [h] at hrun
  obtain ⟨made, object, opened, hmade, hopened, hdone⟩ := write_ok h
  obtain ⟨hlocate, kept, hfile⟩ := openTruncated_file ((makeParents_adds hmade).sound hsound) hopened
  have hlookup : (opened.overwrite object data).lookup path = .ok (path.place, .file object) := by
    rw [lookup_of_locate_file ((locate_overwrite _ _ _ _).trans hlocate), (openTruncated_ok hopened).1]
    rfl
  have hwritten : (opened.overwrite object data).object? object = some ⟨data, kept⟩ := by
    simpa using object?_overwrite hfile data
  cases (setMode_of_lookup hlookup hwritten).symm.trans hdone
  have hrange : object < (opened.overwrite object data).objects.length :=
    (List.getElem?_eq_some_iff.mp hwritten).1
  refine ⟨hgrown, (hasParents_of_made hmade).mono ?_, object, ?_, object?_setObject_self hrange _⟩
  · intro place hplace
    rw [node?_setObject, node?_overwrite]
    exact openTruncated_keeps hopened place hplace
  · rw [lookup, locate_setObject] at *
    exact hlookup

/-- Where the file can be opened, a token is taken. -/
theorem write_of_opens (hsound : fs.Sound)
    (hopens : ∃ made result, fs.makeParents path = .ok made ∧
      made.openTruncated path ownerOnly = .ok result) (data : Bytes) :
    ∃ grown, (write path data).run.run FileSystem.answer fs = (.ok (), grown) ∧
      grown.Holds path data := by
  obtain ⟨made, ⟨object, opened⟩, hmade, hopened⟩ := hopens
  obtain ⟨grown, hrun⟩ := write_of_open hmade hopened data
  exact ⟨grown, hrun, holds_of_write hsound hrun⟩

/-- A deletion makes the slot free again. -/
theorem erase_of_holds (h : fs.Holds path data) :
    ∃ grown, (erase path).run.run FileSystem.answer fs = (.ok (), grown) ∧
      grown.Creatable path := by
  obtain ⟨object, hlookup, _⟩ := h.file
  have hlocate := lookup_ok hlookup
  obtain ⟨zeros, herase⟩ := erase_of_file hlocate hlookup
  have hgrown := run_sound (erase path).run h.sound
  rw [herase] at hgrown
  have hkeeps : KeepsDirectories fs ((fs.overwrite object zeros).setNode path.place none) := by
    intro place hplace
    have hne : place ≠ path.place := by
      rintro rfl
      rw [← (locate_ok hlocate).2] at hplace
      cases hplace
    rw [node?_setNode_ne hne, node?_overwrite, hplace]
  have hasks : Path.asksDirectory path = false := by
    rw [lookup_of_locate_file hlocate] at hlookup
    split at hlookup
    · cases hlookup
    · next hasks => simpa using hasks
  have hwritten := (locate_overwrite fs object zeros path).trans hlocate
  exact ⟨_, herase, hgrown, hasks, lookup_of_erased hlocate zeros, _,
    (h.parents.mono hkeeps).makeParents, locate_of_unlinked hwritten⟩

end TokenFile

end WorkloadIdentity
