import WorkloadIdentity.Proofs.FileSystem.Parents
import WorkloadIdentity.Proofs.FileSystem.TokenFile

/-!
The token's file when it is taken away, and when it cannot be written. Where nothing stands in the
way of the path, a reader finds no token after a deletion, whether or not there was a file to
delete. A write that fails changes nothing for a reader, and no write gets in the way of a path
that never goes up.
-/

namespace WorkloadIdentity

open FileSystem

variable {fs grown : FileSystem} {path : Path}

namespace FileSystem

/-! ### Usable paths -/

/-- There may be a file at a path: its names are accepted, what lies above it is a directory where
it exists, and there is no directory at the path itself. A path that asks for a directory lies below
the place that it names. -/
structure Usable (fs : FileSystem) (path : Path) : Prop where
  plain : ¬path.toList.contains '\x00' = true
  short : path.utf8ByteSize ≤ maxPath
  shortNames : ∀ name ∈ Path.names path, name.utf8ByteSize ≤ maxName
  above : ∀ front, front <+: Path.names path →
    (front ≠ Path.names path ∨ Path.asksDirectory path = true) →
    ∀ object, fs.node? (front.foldl Place.child ⟨Path.isAbsolute path, []⟩) ≠ some (.file object)
  free : fs.node? path.place ≠ some .directory

/-- A way without files on it is open or breaks off. -/
theorem walk_of_no_files {start : Place} {names : List String} (hnames : names ≠ [])
    (hshort : ∀ name ∈ names, name.utf8ByteSize ≤ maxName)
    (habove : ∀ front, front <+: names → front ≠ names → front ≠ [] →
      ∀ object, fs.node? (front.foldl Place.child start) ≠ some (.file object)) :
    fs.walk start names =
        .ok (names.foldl Place.child start, fs.node? (names.foldl Place.child start)) ∨
      fs.walk start names = .error .noEntry := by
  induction names generalizing start with
  | nil => exact (hnames rfl).elim
  | cons name rest ih =>
      have hname : ¬maxName < name.utf8ByteSize := Nat.not_lt.mpr (hshort name (by simp))
      cases rest with
      | nil =>
          unfold walk
          rw [if_neg hname]
          exact Or.inl rfl
      | cons next rest =>
          unfold walk
          rw [if_neg hname]
          cases hnode : fs.node? (start.child name) with
          | none => exact Or.inr rfl
          | some node =>
              cases node with
              | file object =>
                  exact (habove [name] (by simp) (by simp) (by simp) object hnode).elim
              | directory =>
                  apply ih (by simp) (fun other hother => hshort other (by simp [hother]))
                  intro front hfront hproper _ object
                  refine habove (name :: front) ?_ ?_ (by simp) object
                  · simpa using hfront
                  · simpa using hproper

theorem Usable.names_ne_nil (h : fs.Usable path) : Path.names path ≠ [] := by
  intro hnil
  apply h.free
  apply node?_of_all_up
  rw [Path.place, hnil]
  rfl

/-- A usable path is open, or breaks off where nothing exists. -/
theorem Usable.locate (h : fs.Usable path) :
    fs.locate path = .ok (path.place, fs.node? path.place) ∨
      fs.locate path = .error (.system .noEntry) := by
  have hempty : path ≠ "" := by
    rintro rfl
    exact h.names_ne_nil rfl
  unfold FileSystem.locate
  rw [if_neg h.plain, if_neg hempty, if_neg (Nat.not_lt.mpr h.short)]
  have hway : fs.walk ⟨Path.isAbsolute path, []⟩ (Path.names path) =
        .ok (path.place, fs.node? path.place) ∨
      fs.walk ⟨Path.isAbsolute path, []⟩ (Path.names path) = .error .noEntry :=
    walk_of_no_files h.names_ne_nil h.shortNames fun front hfront hproper _ =>
      h.above front hfront (Or.inl hproper)
  rcases hway with hwalk | hwalk
  · rw [hwalk]
    exact Or.inl rfl
  · rw [hwalk]
    exact Or.inr rfl

/-- A usable path leads to a file or to nothing. -/
theorem Usable.lookup (h : fs.Usable path) :
    fs.lookup path = .error (.system .noEntry) ∨
      ∃ object, fs.locate path = .ok (path.place, some (.file object)) ∧
        fs.lookup path = .ok (path.place, .file object) := by
  rcases h.locate with hlocate | hlocate
  · cases hnode : fs.node? path.place with
    | none =>
        rw [hnode] at hlocate
        exact Or.inl (lookup_of_locate_none hlocate)
    | some node =>
        cases node with
        | directory => exact (h.free hnode).elim
        | file object =>
            have hasks : ¬Path.asksDirectory path = true := by
              intro hasks
              exact h.above _ (List.prefix_refl _) (Or.inr hasks) object hnode
            rw [hnode] at hlocate
            refine Or.inr ⟨object, hlocate, ?_⟩
            rw [lookup_of_locate_file hlocate, if_neg hasks]
  · exact Or.inl (lookup_of_locate_error hlocate)

/-- The way to what is found goes through directories. -/
theorem walk_ok_above {start : Place} {names : List String} {found : Place × Option Node}
    (h : fs.walk start names = .ok found) :
    (∀ name ∈ names, name.utf8ByteSize ≤ maxName) ∧
      ∀ front, front <+: names → front ≠ names → front ≠ [] →
        fs.node? (front.foldl Place.child start) = some .directory := by
  induction names generalizing start with
  | nil =>
      refine ⟨by simp, ?_⟩
      intro front hfront hproper _
      exact (hproper (List.prefix_nil.mp hfront)).elim
  | cons name rest ih =>
      cases rest with
      | nil =>
          unfold walk at h
          split at h
          · cases h
          · next hname =>
              refine ⟨by simpa using hname, ?_⟩
              intro front hfront hproper hempty
              cases front with
              | nil => exact (hempty rfl).elim
              | cons other tail =>
                  obtain ⟨rfl, htail⟩ := List.cons_prefix_cons.mp hfront
                  exact (hproper (by rw [List.prefix_nil.mp htail])).elim
      | cons next rest =>
          unfold walk at h
          split at h
          · cases h
          · next hname =>
              split at h
              · cases h
              · cases h
              · next hnode =>
                  obtain ⟨hshort, habove⟩ := ih h
                  refine ⟨?_, ?_⟩
                  · intro other hother
                    rcases List.mem_cons.mp hother with rfl | hother
                    · exact Nat.not_lt.mp hname
                    · exact hshort other hother
                  · intro front hfront hproper hempty
                    cases front with
                    | nil => exact (hempty rfl).elim
                    | cons other tail =>
                        obtain ⟨rfl, htail⟩ := List.cons_prefix_cons.mp hfront
                        by_cases hnil : tail = []
                        · rw [hnil]
                          exact hnode
                        · exact habove tail htail (by simpa using hproper) hnil

/-- A path that can be followed is one that the system takes. -/
theorem limits_of_locate {result : Place × Option Node} (h : fs.locate path = .ok result) :
    ¬path.toList.contains '\x00' = true ∧ path.utf8ByteSize ≤ maxPath := by
  unfold FileSystem.locate at h
  split at h
  · cases h
  · next hplain =>
      split at h
      · cases h
      · split at h
        · cases h
        · next hlong => exact ⟨hplain, Nat.not_lt.mp hlong⟩

/-- The way to what is found begins with a directory, too. -/
theorem directory_of_located {result : Place × Option Node} (h : fs.locate path = .ok result)
    {front : List String} (hfront : front <+: Path.names path) (hproper : front ≠ Path.names path) :
    fs.node? (front.foldl Place.child ⟨Path.isAbsolute path, []⟩) = some .directory := by
  by_cases hempty : front = []
  · rw [hempty]
    exact node?_of_all_up fs rfl
  · exact (walk_ok_above (locate_walk h)).2 front hfront hproper hempty

/-- A path at the end of an open way is usable if it asks for a file and there is no directory. -/
theorem usable_of_located {node : Option Node} (hasks : Path.asksDirectory path = false)
    (h : fs.locate path = .ok (path.place, node)) (hfree : node ≠ some .directory) :
    fs.Usable path := by
  obtain ⟨hplain, hshort⟩ := limits_of_locate h
  refine ⟨hplain, hshort, (walk_ok_above (locate_walk h)).1, ?_, (locate_ok h).2 ▸ hfree⟩
  intro front hfront hproper other
  rw [directory_of_located h hfront (by simpa [hasks] using hproper)]
  simp

/-- A path from which something is read is usable. -/
theorem usable_of_read {content : Bytes} (h : fs.read path = .ok content) : fs.Usable path := by
  obtain ⟨⟨found, node⟩, hlookup, h⟩ := exists_of_bind_ok h
  cases node with
  | directory => cases h
  | file object =>
      have hlocate := lookup_ok hlookup
      obtain ⟨rfl, _⟩ := locate_ok hlocate
      rw [lookup_of_locate_file hlocate] at hlookup
      split at hlookup
      · cases hlookup
      · next hasks => exact usable_of_located (by simpa using hasks) hlocate (by simp)

/-- Directories above a path that never goes up do not get in its way. -/
theorem Usable.makeParents (h : fs.Usable path) (hup : ".." ∉ Path.names path)
    (hmade : fs.makeParents path = .ok grown) : grown.Usable path where
  plain := h.plain
  short := h.short
  shortNames := h.shortNames
  above front hfront hproper object hfile :=
    h.above front hfront hproper object (((makeParents_adds hmade).node_file _ object).mp hfile)
  free := by
    unfold FileSystem.makeParents at hmade
    split at hmade
    · next parent hparent =>
        split at hmade
        · rw [makeDirectories_node? hup h.free hparent hmade]
          exact h.free
        · cases hmade
          exact h.free
    · cases hmade
      exact h.free

end FileSystem

/-! ### Erasing -/

namespace TokenFile

theorem erase_eq (path : Path) :
    erase path = (call (.length path) >>= fun length : Nat =>
      call (.openExisting path) >>= fun object : Nat =>
        call (.overwrite object (List.replicate length 0)) >>= fun _ =>
          call (.sync object) >>= fun _ => call (.remove path)) := rfl

/-- A file is overwritten with as many zeros as it has bytes, and loses its name. -/
theorem erase_zeros {object : Nat}
    (hlocate : fs.locate path = .ok (path.place, some (.file object)))
    (h : fs.lookup path = .ok (path.place, .file object)) :
    (erase path).run.run FileSystem.answer fs =
      (.ok (), (fs.overwrite object (List.replicate
        (((fs.object? object).map (·.content.length)).getD 0) 0)).setNode path.place none) := by
  generalize hcount : ((fs.object? object).map (·.content.length)).getD 0 = length
  have hlength : fs.answer (.length path) = (.ok length, fs) := by
    show (fs.length path, fs) = _
    unfold FileSystem.length
    rw [h, ← hcount]
    rfl
  have hopen : fs.answer (.openExisting path) = (.ok object, fs) := by
    show (fs.openExisting path, fs) = _
    unfold FileSystem.openExisting
    rw [h]
    rfl
  generalize hwritten : fs.overwrite object (List.replicate length 0) = written
  have hstays : written.locate path = .ok (path.place, some (.file object)) := by
    rw [← hwritten, locate_overwrite, hlocate]
  have hlookup : written.lookup path = .ok (path.place, .file object) := by
    rw [lookup_of_locate_file hlocate] at h
    rw [lookup_of_locate_file hstays, h]
  have hfill : fs.answer (.overwrite object (List.replicate length 0)) =
      (.ok (), written) := by
    rw [← hwritten]
    rfl
  have hremove : written.answer (.remove path) = (.ok (), written.setNode path.place none) := by
    show written.change (written.remove path) = _
    unfold FileSystem.remove
    rw [hlookup]
    rfl
  have hsync : written.answer (.sync object) = (.ok (), written) := rfl
  rw [erase_eq]
  exact (run_call_bind_of_ok hlength).trans ((run_call_bind_of_ok hopen).trans
    ((run_call_bind_of_ok hfill).trans ((run_call_bind_of_ok hsync).trans hremove)))

theorem erase_of_file {object : Nat}
    (hlocate : fs.locate path = .ok (path.place, some (.file object)))
    (h : fs.lookup path = .ok (path.place, .file object)) :
    ∃ zeros, (erase path).run.run FileSystem.answer fs =
      (.ok (), (fs.overwrite object zeros).setNode path.place none) :=
  ⟨_, erase_zeros hlocate h⟩

theorem erase_of_absent {fault : IoFault} (h : fs.lookup path = .error fault) :
    (erase path).run.run FileSystem.answer fs = (.error fault, fs) := by
  have hlength : fs.answer (.length path) = (.error fault, fs) := by
    show (fs.length path, fs) = (.error fault, fs)
    unfold FileSystem.length
    rw [h]
    rfl
  exact run_call_bind_of_error hlength

/-- A directory has a size, but it cannot be opened for writing. -/
theorem erase_of_directory {found : Place} (h : fs.lookup path = .ok (found, .directory)) :
    (erase path).run.run FileSystem.answer fs = (.error (.system .isDirectory), fs) := by
  have hlength : fs.answer (.length path) = (.ok (4096 : Nat), fs) := by
    show (fs.length path, fs) = _
    unfold FileSystem.length
    rw [h]
    rfl
  have hopen : fs.answer (.openExisting path) = (.error (.system .isDirectory), fs) := by
    show (fs.openExisting path, fs) = _
    unfold FileSystem.openExisting
    rw [h]
    rfl
  exact (run_call_bind_of_ok hlength).trans (run_call_bind_of_error hopen)

/-- Nothing is changed, or a file is overwritten and loses its name. -/
theorem erase_cases (fs : FileSystem) (path : Path) :
    (∃ fault, (erase path).run.run FileSystem.answer fs = (.error fault, fs)) ∨
      ∃ object zeros, fs.locate path = .ok (path.place, some (.file object)) ∧
        (erase path).run.run FileSystem.answer fs =
          (.ok (), (fs.overwrite object zeros).setNode path.place none) := by
  cases hlookup : fs.lookup path with
  | error fault => exact Or.inl ⟨fault, erase_of_absent hlookup⟩
  | ok result =>
      obtain ⟨found, node⟩ := result
      have hlocate := lookup_ok hlookup
      obtain ⟨rfl, _⟩ := locate_ok hlocate
      cases node with
      | file object =>
          obtain ⟨zeros, herase⟩ := erase_of_file hlocate hlookup
          exact Or.inr ⟨object, zeros, hlocate, herase⟩
      | directory => exact Or.inl ⟨.system .isDirectory, erase_of_directory hlookup⟩

/-- There is nothing to read where a file has lost its name. -/
theorem lookup_of_erased {object : Nat}
    (hlocate : fs.locate path = .ok (path.place, some (.file object))) (zeros : Bytes) :
    ((fs.overwrite object zeros).setNode path.place none).lookup path =
      .error (.system .noEntry) := by
  exact lookup_of_unlinked ((locate_overwrite fs object zeros path).trans hlocate)

end TokenFile

namespace FileStore

theorem delete_leaves (store : FileStore) (fs : FileSystem) :
    (store.delete fs).2 = ({ store with copy := none },
      ((TokenFile.erase store.path).run.run FileSystem.answer fs).2) := by
  unfold delete
  dsimp only
  rcases (TokenFile.erase store.path).run.run FileSystem.answer fs with ⟨fault | given, grown⟩
  · cases hfound : fault.isNotFound <;> simp [hfound]
  · rfl

/-- Where the path is usable before or after a deletion, there is nothing to read. -/
theorem read_of_delete {store : FileStore}
    (husable : fs.Usable store.path ∨ (store.delete fs).2.2.Usable store.path) :
    (store.delete fs).2.1.read (store.delete fs).2.2 = .error .noData := by
  have hread {after : FileSystem}
      (hlookup : after.lookup store.path = .error (.system .noEntry)) :
      FileStore.read { store with copy := none } after = .error .noData := by
    unfold read FileSystem.read
    rw [hlookup]
    rfl
  rw [delete_leaves] at husable ⊢
  -- A deletion that fails leaves the files alone, and so it fails only where there is no file.
  rcases TokenFile.erase_cases fs store.path with ⟨fault, herase⟩ | ⟨object, zeros, hlocate, herase⟩
  · rw [herase] at husable ⊢
    rcases (or_self_iff.mp husable).lookup with hnone | ⟨object, hlocate, hfile⟩
    · exact hread hnone
    · obtain ⟨zeros, herased⟩ := TokenFile.erase_of_file hlocate hfile
      rw [herased] at herase
      cases herase
  · rw [herase]
    exact hread (TokenFile.lookup_of_erased hlocate zeros)

end FileStore

/-! ### Failing to write -/

namespace FileSystem

/-- No run of calls makes a file system unsound. -/
theorem run_sound {α : Type} (program : FileProgram α) (hsound : fs.Sound) :
    (Program.run FileSystem.answer program fs).2.Sound := by
  induction program generalizing fs with
  | done value => exact hsound
  | perform call next ih => exact ih _ (answer_sound hsound call)

/-- What can be read can be opened for writing. -/
theorem openTruncated_of_read {content : Bytes} (h : fs.read path = .ok content) (mode : Nat) :
    ∃ result, fs.openTruncated path mode = .ok result := by
  obtain ⟨⟨found, node⟩, hlookup, h⟩ := exists_of_bind_ok h
  cases node with
  | directory => cases h
  | file object =>
      have hlocate := lookup_ok hlookup
      rw [lookup_of_locate_file hlocate] at hlookup
      split at hlookup
      · cases hlookup
      · next hasks =>
          unfold openTruncated
          rw [hlocate]
          simp only [Bind.bind, Except.bind, hasks]
          exact ⟨_, rfl⟩

theorem AddsDirectories.read_ok (h : AddsDirectories fs grown) {content : Bytes}
    (hread : fs.read path = .ok content) : grown.read path = .ok content := by
  obtain ⟨⟨found, node⟩, hlookup, hnode⟩ := exists_of_bind_ok hread
  cases node with
  | directory => cases hnode
  | file object =>
      have hlocate := lookup_ok hlookup
      obtain ⟨rfl, hfile⟩ := locate_ok hlocate
      have hgrown := locate_of_directories (h.beside path.place).directory hlocate
      rw [(h.node_file path.place object).mpr hfile.symm] at hgrown
      have hobject : grown.object? object = fs.object? object := by
        rw [object?, object?, h.objects]
      rw [read_eq_of_locate hlocate hgrown hobject, hread]

end FileSystem

namespace TokenFile

/-- A write that fails has changed nothing, unless it has made directories for a file that cannot be
opened. -/
theorem write_error {data : Bytes} {fault : IoFault}
    (h : (write path data).run.run FileSystem.answer fs = (.error fault, grown)) :
    grown = fs ∨ fs.makeParents path = .ok grown ∧
      ∀ result, grown.openTruncated path ownerOnly ≠ .ok result := by
  rw [write_eq] at h
  cases hmade : fs.makeParents path with
  | error refused =>
      rw [hmade] at h
      cases h
      exact Or.inl rfl
  | ok made =>
      rw [hmade] at h
      cases hopened : made.openTruncated path ownerOnly with
      | ok result =>
          obtain ⟨written, hwritten⟩ := fill_of_open hopened data
          cases hwritten.symm.trans h
      | error refused =>
          have hopen : made.answer (.openTruncated path ownerOnly) = (.error refused, made) := by
            simp [answer, hopened]
          cases (run_call_bind_of_error hopen).symm.trans h
          exact Or.inr ⟨rfl, by simp [hopened]⟩

/-- A write that fails takes nothing away from a reader and gives nothing. -/
theorem read_of_write_error {data : Bytes} {fault : IoFault}
    (h : (write path data).run.run FileSystem.answer fs = (.error fault, grown))
    (content : Bytes) : grown.read path = .ok content ↔ fs.read path = .ok content := by
  rcases write_error h with rfl | ⟨hmade, hrefused⟩
  · rfl
  · constructor
    · intro hread
      obtain ⟨result, hopened⟩ := openTruncated_of_read hread ownerOnly
      exact (hrefused result hopened).elim
    · exact (makeParents_adds hmade).read_ok

/-- A path that never goes up stays usable when a token is written to it, or cannot be. -/
theorem usable_of_write (hsound : fs.Sound) (husable : fs.Usable path)
    (hup : ".." ∉ Path.names path) {data : Bytes} {result : Except IoFault Unit}
    (h : (write path data).run.run FileSystem.answer fs = (result, grown)) :
    grown.Usable path := by
  cases result with
  | ok given => exact usable_of_read (read_of_write hsound h)
  | error fault =>
      rcases write_error h with rfl | ⟨hmade, _⟩
      · exact husable
      · exact husable.makeParents hup hmade

end TokenFile

/-! ### Stores -/

theorem FileStore.read_ok_iff {store : FileStore} {data : Bytes} :
    store.read fs = .ok data ↔ fs.read store.path = .ok data ∧ data ≠ [] := by
  unfold FileStore.read
  cases fs.read store.path with
  | error fault => cases hfound : fault.isNotFound <;> simp [hfound]
  | ok content =>
      cases content with
      | nil => simp +contextual [eq_comm]
      | cons byte rest => simp +contextual [eq_comm]

namespace TokenStore

variable {store : TokenStore} {data : Bytes}

theorem write_sound (hsound : fs.Sound) (store : TokenStore) (data : Bytes) :
    (store.write data fs).2.2.Sound := by
  cases store with
  | memory store => exact hsound
  | file store =>
      show (store.write data fs).2.2.Sound
      have hrun : ((TokenFile.write store.path data).run.run FileSystem.answer fs).2.Sound :=
        run_sound _ hsound
      unfold FileStore.write
      split
      · exact hsound
      · split
        · next hdone =>
            rw [hdone] at hrun
            exact hrun
        · next hdone =>
            rw [hdone] at hrun
            exact hrun

theorem path?_write (store : TokenStore) (data : Bytes) (fs : FileSystem) :
    (store.write data fs).2.1.path? = store.path? := by
  cases store with
  | memory store => rfl
  | file store =>
      show (TokenStore.file (store.write data fs).2.1).path? = some store.path
      unfold FileStore.write
      split
      · rfl
      · split <;> rfl

/-- A write that fails takes no token away and gives none. -/
theorem read_of_write_error {failure : Failure} (h : (store.write data fs).1 = .error failure)
    (token : Bytes) :
    (store.write data fs).2.1.read (store.write data fs).2.2 = .ok token ↔
      store.read fs = .ok token := by
  cases store with
  | memory store =>
      cases data with
      | nil => rfl
      | cons byte rest => cases h
  | file store =>
      replace h : (store.write data fs).1 = .error failure := h
      show (store.write data fs).2.1.read (store.write data fs).2.2 = .ok token ↔
        store.read fs = .ok token
      unfold FileStore.write at h ⊢
      split
      · rfl
      · next hempty =>
          rw [if_neg hempty] at h
          split
          · next hdone =>
              rw [hdone] at h
              cases h
          · next fault grown hdone =>
              rw [FileStore.read_ok_iff, FileStore.read_ok_iff,
                TokenFile.read_of_write_error hdone]

theorem usable_of_write {path : Path} (hsound : fs.Sound) (husable : fs.Usable path)
    (hup : ".." ∉ Path.names path) (hpath : store.path? = some path) (data : Bytes) :
    (store.write data fs).2.2.Usable path := by
  cases store with
  | memory store => cases hpath
  | file store =>
      cases hpath
      show (store.write data fs).2.2.Usable store.path
      unfold FileStore.write
      split
      · exact husable
      · split
        · next hdone => exact TokenFile.usable_of_write hsound husable hup hdone
        · next hdone => exact TokenFile.usable_of_write hsound husable hup hdone

/-- A store in memory, or in a file at a usable path, has a token or has none. -/
theorem read_cases (husable : ∀ path, store.path? = some path → fs.Usable path) :
    store.read fs = .error .noData ∨ ∃ token, store.read fs = .ok token := by
  cases store with
  | memory store =>
      show store.read = .error .noData ∨ ∃ token, store.read = .ok token
      unfold MemoryStore.read
      cases store.token with
      | none => exact Or.inl rfl
      | some token => exact Or.inr ⟨token, rfl⟩
  | file store =>
      show store.read fs = .error .noData ∨ ∃ token, store.read fs = .ok token
      rcases (husable store.path rfl).lookup with hnone | ⟨object, _, hfile⟩
      · unfold FileStore.read FileSystem.read
        rw [hnone]
        exact Or.inl rfl
      · obtain ⟨content, hread⟩ : ∃ content, fs.read store.path = .ok content := by
          unfold FileSystem.read
          rw [hfile]
          exact ⟨_, rfl⟩
        unfold FileStore.read
        rw [hread]
        cases content with
        | nil => exact Or.inl rfl
        | cons byte rest => exact Or.inr ⟨_, rfl⟩

/-- A store in memory, or in a file at a usable path, holds nothing after a deletion. -/
theorem read_of_delete (husable : ∀ path, store.path? = some path →
      fs.Usable path ∨ (store.delete fs).2.2.Usable path) :
    (store.delete fs).2.1.read (store.delete fs).2.2 = .error .noData := by
  cases store with
  | memory store => rfl
  | file store => exact FileStore.read_of_delete (husable store.path rfl)

end TokenStore

end WorkloadIdentity
