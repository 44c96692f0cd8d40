import WorkloadIdentity.Proofs.FileSystem.Alike
import WorkloadIdentity.Proofs.FileSystem.Exposure
import WorkloadIdentity.Proofs.FileSystem.Writable

/-!
What becomes of a token that is deleted, whatever was done to its file before, by the store or by
others. A deletion goes by what its path leads to at the time: a file is zeroed at the length that
it has by then and loses its name, and everything else stays as it is and is reported. Only a path
whose way breaks off where nothing exists is said to have no file. One that cannot be followed for
another reason is a failure, though there is no file at it either.
-/

namespace WorkloadIdentity

open FileSystem

variable {fs grown : FileSystem} {path : Path}

namespace FileSystem

/-! ### Nothing at a path -/

/-- A way through directories to a name that leads to nothing. -/
inductive Misses (fs : FileSystem) : Place → List String → Prop
  | here {start : Place} {name : String} {rest : List String} :
      name.utf8ByteSize ≤ maxName → fs.node? (start.child name) = none →
      Misses fs start (name :: rest)
  | further {start : Place} {name : String} {rest : List String} :
      name.utf8ByteSize ≤ maxName → fs.node? (start.child name) = some .directory →
      Misses fs (start.child name) rest → Misses fs start (name :: rest)

/-- There is nothing at a path, which can be followed as far as there is something. -/
def Absent (fs : FileSystem) (path : Path) : Prop :=
  path = "" ∨ ¬path.toList.contains '\x00' = true ∧ path.utf8ByteSize ≤ maxPath ∧
    fs.Misses ⟨Path.isAbsolute path, []⟩ (Path.names path)

theorem misses_iff_walk {start : Place} {names : List String} :
    fs.Misses start names ↔
      (∃ found, fs.walk start names = .ok (found, none)) ∨
        fs.walk start names = .error .noEntry := by
  induction names generalizing start with
  | nil =>
      constructor
      · intro h
        cases h
      · simp [walk]
  | cons name rest ih =>
      constructor
      · intro h
        cases h with
        | here hname hnone =>
            cases rest with
            | nil =>
                rw [walk, if_neg (Nat.not_lt.mpr hname), hnone]
                exact Or.inl ⟨_, rfl⟩
            | cons next rest =>
                rw [walk, if_neg (Nat.not_lt.mpr hname), hnone]
                · exact Or.inr rfl
                · exact List.cons_ne_nil _ _
        | further hname hnode hrest =>
            have hnames : rest ≠ [] := by
              rintro rfl
              cases hrest
            rw [walk_cons_of_directory hnames hname hnode]
            exact ih.mp hrest
      · intro h
        cases rest with
        | nil =>
            unfold walk at h
            split at h
            · simp at h
            · next hname => exact .here (Nat.not_lt.mp hname) (by simpa using h)
        | cons next rest =>
            unfold walk at h
            split at h
            · simp at h
            · next hname =>
                split at h
                · next hnone => exact .here (Nat.not_lt.mp hname) hnone
                · simp at h
                · next hnode => exact .further (Nat.not_lt.mp hname) hnode (ih.mpr h)

theorem locate_finds_nothing_iff :
    ((∃ found, fs.locate path = .ok (found, none)) ∨
      fs.locate path = .error (.system .noEntry)) ↔ fs.Absent path := by
  unfold locate
  split
  · next hzero =>
      have hempty : path ≠ "" := by
        rintro rfl
        cases hzero
      refine iff_of_false ?_ fun h => (h.resolve_left hempty).1 hzero
      rintro (⟨_, h⟩ | h) <;> cases h
  · next hplain =>
      split
      · next hempty => exact iff_of_true (Or.inr rfl) (Or.inl hempty)
      · next hempty =>
          split
          · next hlong =>
              refine iff_of_false (by simp) fun h => ?_
              exact Nat.not_le.mpr hlong (h.resolve_left hempty).2.1
          · next hlong =>
              rw [Absent, or_iff_right hempty, and_iff_right hplain,
                and_iff_right (Nat.not_lt.mp hlong), misses_iff_walk]
              cases fs.walk ⟨Path.isAbsolute path, []⟩ (Path.names path) with
              | error fault => simp [Except.mapError]
              | ok result => simp [Except.mapError]

/-- What looks for a path that leads to nothing finds no entry, and finds one otherwise or fails for
another reason. -/
theorem lookup_noEntry_iff : fs.lookup path = .error (.system .noEntry) ↔ fs.Absent path := by
  rw [← locate_finds_nothing_iff]
  cases hlocate : fs.locate path with
  | error fault =>
      rw [lookup_of_locate_error hlocate]
      simp
  | ok result =>
      obtain ⟨found, node⟩ := result
      rcases node with _ | _ | object
      · rw [lookup_of_locate_none hlocate]
        simp
      · rw [lookup, hlocate]
        simp [bind, Except.bind]
      · rw [lookup_of_locate_file hlocate]
        split <;> simp

/-- Only a missing entry is reported as such. -/
theorem isNotFound_of_lookup {fault : IoFault} (h : fs.lookup path = .error fault)
    (hnone : fault ≠ .system .noEntry) : fault.isNotFound = false := by
  have hsystem {reason : SystemFault} (hreason : IoFault.system reason ≠ .system .noEntry) :
      (IoFault.system reason).isNotFound = false := by
    cases reason with
    | noEntry => exact absurd rfl hreason
    | _ => rfl
  have hlocated {fault : IoFault} (h : fs.locate path = .error fault)
      (hnone : fault ≠ .system .noEntry) : fault.isNotFound = false := by
    unfold locate at h
    split at h
    · cases h
      rfl
    · split at h
      · cases h
        exact absurd rfl hnone
      · split at h
        · cases h
          rfl
        · cases hwalk : fs.walk ⟨Path.isAbsolute path, []⟩ (Path.names path) with
          | ok result =>
              rw [hwalk] at h
              cases h
          | error reason =>
              rw [hwalk] at h
              cases h
              exact hsystem hnone
  cases hlocate : fs.locate path with
  | error reason =>
      rw [lookup_of_locate_error hlocate] at h
      cases h
      exact hlocated hlocate hnone
  | ok result =>
      obtain ⟨found, node⟩ := result
      rcases node with _ | _ | object
      · rw [lookup_of_locate_none hlocate] at h
        cases h
        exact absurd rfl hnone
      · rw [lookup, hlocate] at h
        cases h
      · rw [lookup_of_locate_file hlocate] at h
        split at h
        · cases h
          rfl
        · cases h

/-- Every path leads to a file, to a directory or to nothing, or cannot be followed. -/
theorem Sound.path_cases (hsound : fs.Sound) (path : Path) :
    (∃ object file, fs.Stands path object file) ∨ fs.isDirectory path = true ∨ fs.Absent path ∨
      ∃ fault, fs.lookup path = .error fault ∧ fault ≠ .system .noEntry := by
  cases hlookup : fs.lookup path with
  | error fault =>
      by_cases hnone : fault = .system .noEntry
      · subst hnone
        exact Or.inr (Or.inr (Or.inl (lookup_noEntry_iff.mp hlookup)))
      · exact Or.inr (Or.inr (Or.inr ⟨fault, rfl, hnone⟩))
  | ok result =>
      obtain ⟨found, node⟩ := result
      have hlocate := lookup_ok hlookup
      obtain ⟨rfl, hnode⟩ := locate_ok hlocate
      cases node with
      | directory => exact Or.inr (Or.inl (isDirectory_iff.mpr hlocate))
      | file object =>
          obtain ⟨file, hfile⟩ := hsound.exists_object hnode.symm
          have hfound : fs.file? path = some file := by
            rw [file?, hlookup]
            exact hfile
          obtain ⟨object, hstands⟩ := Stands.of_file? hfound
          exact Or.inl ⟨object, file, hstands⟩

/-! ### A file that is zeroed and loses its name -/

def shredded (fs : FileSystem) (place : Place) (object : Nat) (file : FileObject) : FileSystem :=
  (fs.setObject object ⟨List.replicate file.content.length 0, file.mode⟩).setNode place none

namespace Stands

variable {object : Nat} {file : FileObject}

theorem located_shredded (h : fs.Stands path object file) :
    (fs.shredded path.place object file).locate path = .ok (path.place, none) :=
  locate_of_unlinked ((locate_setObject fs object _ path).trans h.located)

theorem absent_shredded (h : fs.Stands path object file) :
    (fs.shredded path.place object file).Absent path :=
  locate_finds_nothing_iff.mp (Or.inl ⟨_, h.located_shredded⟩)

theorem writable_shredded (h : fs.Stands path object file) :
    (fs.shredded path.place object file).Writable path :=
  writable_of_located h.plain h.located_shredded (by simp)

theorem object?_shredded (h : fs.Stands path object file) :
    (fs.shredded path.place object file).object? object =
      some ⟨List.replicate file.content.length 0, file.mode⟩ :=
  object?_setObject_self (List.getElem?_eq_some_iff.mp h.held).1 _

theorem entryAt_shredded (h : fs.Stands path object file) (hsound : fs.Sound) {place : Place}
    (hplace : place ≠ path.place) :
    (fs.shredded path.place object file).entryAt place = fs.entryAt place :=
  (entryAt_setNode_ne hplace none).trans
    (entryAt_setObject_ne hsound (locate_ok h.located).2.symm hplace _)

/-- A file is zeroed at its length and loses its name. -/
theorem erase (h : fs.Stands path object file) :
    (TokenFile.erase path).run.run FileSystem.answer fs =
      (.ok (), fs.shredded path.place object file) := by
  rw [TokenFile.erase_zeros h.located h.lookup, h.held, FileSystem.overwrite, h.held]
  simp [shredded]

end Stands

end FileSystem

/-! ### Deletions -/

namespace FileStore

variable {store : FileStore}

theorem shown_of_no_copy (h : store.copy = none) : store.shown =
    "FileAccessToken \x7b path: " ++ Text.quoted store.path ++ ", populated: false \x7d" := by
  unfold shown
  generalize Text.quoted store.path = quoted
  simp [h, String.append_assoc]

theorem delete_of_stands {object : Nat} {file : FileObject}
    (h : fs.Stands store.path object file) :
    store.delete fs =
      (.ok (), { store with copy := none }, fs.shredded store.path.place object file) := by
  rw [delete, h.erase]

theorem delete_of_absent (h : fs.Absent store.path) :
    store.delete fs = (.error (.tokenFileMissing store.path), { store with copy := none }, fs) := by
  rw [delete, TokenFile.erase_of_absent (lookup_noEntry_iff.mpr h)]
  rfl

theorem delete_of_directory (h : fs.isDirectory store.path = true) :
    store.delete fs =
      (.error (.io (.system .isDirectory)), { store with copy := none }, fs) := by
  have hlookup : fs.lookup store.path = .ok (store.path.place, .directory) := by
    rw [lookup, isDirectory_iff.mp h]
    rfl
  rw [delete, TokenFile.erase_of_directory hlookup]
  rfl

theorem delete_of_fault {fault : IoFault} (h : fs.lookup store.path = .error fault)
    (hnone : fault ≠ .system .noEntry) :
    store.delete fs = (.error (.io fault), { store with copy := none }, fs) := by
  rw [delete, TokenFile.erase_of_absent h]
  simp [isNotFound_of_lookup h hnone]

/-- A deletion zeroes a file and takes its name away, or fails and leaves the files as they are. -/
theorem delete_cases (hsound : fs.Sound) (store : FileStore) :
    (∃ object file, fs.Stands store.path object file ∧ store.delete fs =
      (.ok (), { store with copy := none }, fs.shredded store.path.place object file)) ∨
    ∃ failure, store.delete fs = (.error failure, { store with copy := none }, fs) := by
  rcases hsound.path_cases store.path with ⟨object, file, hstands⟩ | hdirectory | habsent |
    ⟨fault, hlookup, hnone⟩
  · exact Or.inl ⟨object, file, hstands, delete_of_stands hstands⟩
  · exact Or.inr ⟨_, delete_of_directory hdirectory⟩
  · exact Or.inr ⟨_, delete_of_absent habsent⟩
  · exact Or.inr ⟨_, delete_of_fault hlookup hnone⟩

/-- What a deletion comes to, by what the path leads to: the file has lost its name and holds as
many zeros as it had bytes, and there is room for another one; or there is nothing to delete, and
that is said; or it fails. The copy is gone in any case, and what is at other places or has other
numbers is as it was. -/
structure Disposes (store : FileStore) (fs : FileSystem) : Prop where
  file : ∀ object file, fs.Stands store.path object file → ∃ grown,
    store.delete fs = (.ok (), { store with copy := none }, grown) ∧
      grown.Absent store.path ∧ grown.Writable store.path ∧
      grown.object? object = some ⟨List.replicate file.content.length 0, file.mode⟩
  missing : fs.Absent store.path →
    store.delete fs = (.error (.tokenFileMissing store.path), { store with copy := none }, fs)
  directory : fs.isDirectory store.path = true →
    store.delete fs = (.error (.io (.system .isDirectory)), { store with copy := none }, fs)
  barred : (∀ object file, ¬fs.Stands store.path object file) → ¬fs.Absent store.path →
    ∃ fault, store.delete fs = (.error (.io fault), { store with copy := none }, fs)
  shown : (store.delete fs).2.1.shown =
    "FileAccessToken \x7b path: " ++ Text.quoted store.path ++ ", populated: false \x7d"
  places : ∀ place, place ≠ store.path.place →
    (store.delete fs).2.2.entryAt place = fs.entryAt place
  handles : ∀ object, fs.node? store.path.place ≠ some (.file object) →
    (store.delete fs).2.2.object? object = fs.object? object

theorem disposes (hsound : fs.Sound) (store : FileStore) : store.Disposes fs where
  file object file h := ⟨_, delete_of_stands h, h.absent_shredded, h.writable_shredded,
    h.object?_shredded⟩
  missing := delete_of_absent
  directory := delete_of_directory
  barred hfile habsent := by
    rcases hsound.path_cases store.path with ⟨object, file, hstands⟩ | hdirectory | hnothing |
      ⟨fault, hlookup, hnone⟩
    · exact absurd hstands (hfile object file)
    · exact ⟨_, delete_of_directory hdirectory⟩
    · exact absurd hnothing habsent
    · exact ⟨fault, delete_of_fault hlookup hnone⟩
  shown := by
    have hcopy : (store.delete fs).2.1 = { store with copy := none } :=
      congrArg Prod.fst (delete_leaves store fs)
    rw [hcopy]
    exact shown_of_no_copy rfl
  places place hplace := by
    rcases delete_cases hsound store with ⟨object, file, hstands, hdelete⟩ | ⟨failure, hdelete⟩
    · rw [hdelete]
      exact hstands.entryAt_shredded hsound hplace
    · rw [hdelete]
  handles object hobject := by
    rcases delete_cases hsound store with ⟨zeroed, file, hstands, hdelete⟩ | ⟨failure, hdelete⟩
    · rw [hdelete]
      apply object?_setObject_ne
      rintro rfl
      exact hobject (locate_ok hstands.located).2.symm
    · rw [hdelete]

end FileStore

/-! ### What others do -/

namespace FileSystem

/-- Nothing lies in a directory, and it is none that is always there. -/
def isRemovable (fs : FileSystem) (place : Place) : Bool :=
  !place.names.all (· == "..") &&
    fs.entries.all fun entry => entry.1 == place || entry.1.parent != place

/-- Takes away a directory in which there is nothing. -/
def removeDirectory (fs : FileSystem) (path : Path) : FileSystem :=
  if fs.isDirectory path && fs.isRemovable path.place then fs.setNode path.place none else fs

theorem isRemovable_iff {place : Place} : fs.isRemovable place = true ↔
    place.names.all (· == "..") = false ∧
      ∀ entry ∈ fs.entries, entry.1 = place ∨ entry.1.parent ≠ place := by
  simp only [isRemovable, Bool.and_eq_true, Bool.not_eq_true', List.all_eq_true, Bool.or_eq_true,
    beq_iff_eq, bne_iff_ne]

theorem parent_ne_of_removable {place other : Place} {node : Node}
    (h : fs.isRemovable place = true) (hother : other ≠ place)
    (hnode : fs.node? other = some node) : other.parent ≠ place := by
  obtain ⟨hup, hentries⟩ := isRemovable_iff.mp h
  unfold node? at hnode
  split at hnode
  · next hallUp =>
      rintro rfl
      rw [parent_all_up hallUp] at hup
      cases hup
  · obtain ⟨entry, hentry, _⟩ := Option.map_eq_some_iff.mp hnode
    have hplace : entry.1 = other := by simpa using List.find?_some hentry
    have hcases := hentries entry (List.mem_of_find?_eq_some hentry)
    rw [hplace] at hcases
    exact hcases.resolve_left hother

theorem removeDirectory_sound (hsound : fs.Sound) (path : Path) :
    (fs.removeDirectory path).Sound := by
  unfold removeDirectory
  split
  · next h =>
      obtain ⟨_, hremovable⟩ := (Bool.and_eq_true _ _).mp h
      have hup := (isRemovable_iff.mp hremovable).1
      constructor
      · intro other object hnode
        exact hsound.inRange other object (node?_of_removed hup hnode)
      · intro one other object hone hother
        exact hsound.distinct one other object (node?_of_removed hup hone)
          (node?_of_removed hup hother)
      · intro other node hnode
        have hbefore := node?_of_removed hup hnode
        have hother : other ≠ path.place := by
          rintro rfl
          rw [node?_setNode_self hup] at hnode
          cases hnode
        rw [node?_setNode_ne (parent_ne_of_removable hremovable hother hbefore)]
        exact hsound.closed other node hbefore
  · exact hsound

end FileSystem

/-- What happens to a store and the files around it: something that its users do, or a call that
others make, or one of theirs to a single directory. -/
inductive Act where
  | own (op : StoreOp)
  | call (call : FileCall)
  | makeDirectory (path : Path)
  | removeDirectory (path : Path)

namespace Depot

variable {depot : Depot}

def act (depot : Depot) : Act → Depot
  | .own op => (depot.perform op).2
  | .call call => { depot with files := (depot.files.answer call).2 }
  | .makeDirectory path =>
    { depot with files := (depot.files.change (depot.files.makeDirectory path)).2 }
  | .removeDirectory path => { depot with files := depot.files.removeDirectory path }

def actAll (depot : Depot) (acts : List Act) : Depot := acts.foldl act depot

/-- A fresh store at a path after some acts. -/
def fileAmid (path : Path) (fs : FileSystem) (acts : List Act) : Depot :=
  actAll ⟨.file (.create path), fs⟩ acts

/-- A store in the file at a path. -/
structure KeptAt (path : Path) (depot : Depot) : Prop where
  sound : depot.files.Sound
  store : ∃ copy, depot.store = .file ⟨path, copy⟩

theorem KeptAt.perform (h : depot.KeptAt path) (op : StoreOp) :
    (depot.perform op).2.KeptAt path := by
  obtain ⟨store, files⟩ := depot
  obtain ⟨hsound, copy, rfl⟩ := h
  cases op with
  | write data =>
      refine ⟨TokenStore.write_sound hsound (.file ⟨path, copy⟩) data, ?_⟩
      show ∃ copy', TokenStore.file ((FileStore.mk path copy).write data files).2.1 = _
      unfold FileStore.write
      split
      · exact ⟨copy, rfl⟩
      · split
        · exact ⟨some data, rfl⟩
        · exact ⟨copy, rfl⟩
  | read => exact ⟨hsound, copy, rfl⟩
  | delete =>
      have hleaves := FileStore.delete_leaves ⟨path, copy⟩ files
      constructor
      · show ((FileStore.mk path copy).delete files).2.2.Sound
        rw [hleaves]
        exact run_sound (TokenFile.erase path).run hsound
      · exact ⟨none, congrArg TokenStore.file (congrArg Prod.fst hleaves)⟩

/-- Whatever happens, the file system stays sound and the store stays where it is. -/
theorem KeptAt.act (h : depot.KeptAt path) (act : Act) : (depot.act act).KeptAt path := by
  obtain ⟨hsound, copy, hstore⟩ := h
  cases act with
  | own op => exact KeptAt.perform ⟨hsound, copy, hstore⟩ op
  | call call => exact ⟨answer_sound hsound call, copy, hstore⟩
  | makeDirectory other =>
      exact ⟨change_sound hsound fun made hmade => (makeDirectory_adds hmade).sound hsound,
        copy, hstore⟩
  | removeDirectory other => exact ⟨removeDirectory_sound hsound other, copy, hstore⟩

theorem KeptAt.fresh (hsound : fs.Sound) (path : Path) :
    KeptAt path ⟨.file (.create path), fs⟩ :=
  ⟨hsound, none, rfl⟩

theorem KeptAt.actAll (h : depot.KeptAt path) (acts : List Act) :
    (depot.actAll acts).KeptAt path := by
  induction acts generalizing depot with
  | nil => exact h
  | cons act acts ih => exact ih (h.act act)

/-- A token is taken exactly where its file can be written, and then it is the one that is read. -/
theorem KeptAt.write (h : depot.KeptAt path) {data : Bytes} (hdata : data ≠ []) :
    ((depot.perform (.write data)).1 = .ok none ↔ depot.files.Writable path) ∧
      (depot.files.Writable path → (depot.perform (.write data)).2.token = .ok data) := by
  obtain ⟨store, files⟩ := depot
  obtain ⟨hsound, copy, rfl⟩ := h
  have hperform : Depot.perform ⟨.file ⟨path, copy⟩, files⟩ (.write data) =
      (((FileStore.mk path copy).write data files).1.map fun _ => none,
        ⟨.file ((FileStore.mk path copy).write data files).2.1,
          ((FileStore.mk path copy).write data files).2.2⟩) := rfl
  rw [hperform]
  constructor
  · rw [← FileStore.write_ok_iff ⟨path, copy⟩ hdata]
    cases ((FileStore.mk path copy).write data files).1 <;> simp [Except.map]
  · intro hwritable
    obtain ⟨grown, hwrite, hread⟩ :=
      FileStore.read_of_writable ⟨path, copy⟩ hsound hdata hwritable
    rw [hwrite]
    exact hread

/-- Whatever the users of a store and others have done to its file and the files around it, a
deletion goes by what is at the path by then, and does no more than it says. Whatever is done after
it, a token is taken where the file can be written, and then it is the one that is read. -/
theorem deletion_goes_by_what_is_there (hsound : fs.Sound) (path : Path) (acts : List Act) :
    (∃ copy, (fileAmid path fs acts).store = .file ⟨path, copy⟩ ∧
      (FileStore.mk path copy).Disposes (fileAmid path fs acts).files) ∧
    ∀ later data, data ≠ [] →
      let depot := fileAmid path fs (acts ++ .own .delete :: later)
      ((depot.perform (.write data)).1 = .ok none ↔ depot.files.Writable path) ∧
        (depot.files.Writable path → (depot.perform (.write data)).2.token = .ok data) := by
  constructor
  · obtain ⟨hamid, copy, hstore⟩ := (KeptAt.fresh hsound path).actAll acts
    exact ⟨copy, hstore, FileStore.disposes hamid _⟩
  · intro later data hdata
    exact ((KeptAt.fresh hsound path).actAll _).write hdata

namespace Sample

/-- A token is written, and then somebody who has its file open writes more than its length. -/
def outgrown : List Act := [.own (.write [1, 2]), .call (.overwrite 0 [7, 8, 9])]

theorem stands_outgrown :
    (fileAmid tokenPath .empty outgrown).files.Stands tokenPath 0 ⟨[7, 8, 9], ownerOnly⟩ :=
  ⟨by decide, by rfl, by rfl⟩

end Sample

theorem deletion_goes_by_what_is_there_outgrown :
    let depot := fileAmid Sample.tokenPath .empty Sample.outgrown
    let left := fileAmid Sample.tokenPath .empty (Sample.outgrown ++ [.own .delete])
    FileSystem.empty.Sound ∧
      (∃ store files, depot.store = .file store ∧ store.delete depot.files =
        (.ok (), { store with copy := none }, files) ∧
          files.object? 0 = some ⟨[0, 0, 0], ownerOnly⟩) ∧
      (left.perform (.write [3])).2.token = .ok [3] := by
  intro depot left
  obtain ⟨⟨copy, hstore, hdisposes⟩, hlater⟩ :=
    deletion_goes_by_what_is_there FileSystem.empty_sound Sample.tokenPath Sample.outgrown
  obtain ⟨files, hdelete, _, _, hzeros⟩ := hdisposes.file _ _ Sample.stands_outgrown
  obtain ⟨htaken, hread⟩ := hlater [] [3] (by simp)
  have hresult : (left.perform (.write [3])).1 = .ok none := by rfl
  exact ⟨FileSystem.empty_sound, ⟨_, files, hstore, hdelete, hzeros⟩, hread (htaken.mp hresult)⟩

end Depot

/-! ### Paths that cannot be followed -/

namespace FileStore

/-- A file `f`, where a path may expect a directory. -/
def filesInTheWay : FileSystem := ((FileSystem.empty.put "f" [0x78] 0o644).toOption).getD .empty

/-- There is nothing at a path below a file, but a deletion does not say that the token's file is
missing. -/
theorem deletion_of_nothing_fails :
    filesInTheWay.Sound ∧ filesInTheWay.exists? "f/tok" = false ∧
      filesInTheWay.node? (Path.place "f/tok") = none ∧
      (FileStore.create "f/tok").delete filesInTheWay =
        (.error (.io (.system .notDirectory)), .create "f/tok", filesInTheWay) := by
  have hput : FileSystem.empty.put "f" [0x78] 0o644 = .ok filesInTheWay := by rfl
  exact ⟨put_sound FileSystem.empty_sound hput, by rfl, by rfl, by rfl⟩

end FileStore

end WorkloadIdentity
