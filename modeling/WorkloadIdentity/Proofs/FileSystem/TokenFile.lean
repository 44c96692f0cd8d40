import WorkloadIdentity.Proofs.FileSystem.Frame
import WorkloadIdentity.TokenStore

/-!
The token in its file. A write that succeeds leaves a file from which the token is read back byte
for byte. What happens elsewhere in the file system is not seen by a reader, as long as writes
would succeed before and after.
-/

namespace WorkloadIdentity

open FileSystem

variable {fs grown : FileSystem} {path : Path}

/-! ### Writing -/

/-- Makes the directories that a path lies in, as a write does. -/
def FileSystem.makeParents (fs : FileSystem) (path : Path) : Except IoFault FileSystem :=
  match Path.parent? path with
  | some parent => if parent ≠ "" then fs.makeDirectories parent else .ok fs
  | none => .ok fs

theorem FileSystem.makeParents_adds (h : fs.makeParents path = .ok grown) :
    AddsDirectories fs grown := by
  unfold makeParents at h
  split at h
  · split at h
    · exact makeDirectories_adds h
    · cases h
      exact .refl fs
  · cases h
    exact .refl fs

namespace TokenFile

/-- A write without the directories. -/
def fill (path : Path) (data : Bytes) : ExceptT IoFault FileProgram Unit :=
  call (.openTruncated path ownerOnly) >>= fun object =>
    call (.overwrite object data) >>= fun _ => call (.sync object) >>= fun _ =>
      call (.setMode path ownerOnly)

theorem run_call_bind {α : Type} (c : FileCall) (f : c.Result → ExceptT IoFault FileProgram α)
    (fs : FileSystem) :
    (call c >>= f).run.run FileSystem.answer fs =
      match fs.answer c with
      | (.ok result, fs) => (f result).run.run FileSystem.answer fs
      | (.error fault, fs) => (.error fault, fs) := by
  have hunfold : (call c >>= f).run.run FileSystem.answer fs =
      Program.run FileSystem.answer (ExceptT.bindCont f (fs.answer c).1) (fs.answer c).2 := rfl
  rw [hunfold]
  rcases fs.answer c with ⟨_ | _, after⟩ <;> rfl

theorem run_call_bind_of_ok {α : Type} {c : FileCall}
    {f : c.Result → ExceptT IoFault FileProgram α} {given : c.Result}
    (h : fs.answer c = (.ok given, grown)) :
    (call c >>= f).run.run FileSystem.answer fs = (f given).run.run FileSystem.answer grown := by
  rw [run_call_bind, h]

theorem run_call_bind_of_error {α : Type} {c : FileCall}
    {f : c.Result → ExceptT IoFault FileProgram α} {fault : IoFault}
    (h : fs.answer c = (.error fault, grown)) :
    (call c >>= f).run.run FileSystem.answer fs = (.error fault, grown) := by
  rw [run_call_bind, h]

theorem run_call_bind_ok {α : Type} {c : FileCall} {f : c.Result → ExceptT IoFault FileProgram α}
    {result : α} (h : (call c >>= f).run.run FileSystem.answer fs = (.ok result, grown)) :
    ∃ given after, fs.answer c = (.ok given, after) ∧
      (f given).run.run FileSystem.answer after = (.ok result, grown) := by
  rw [run_call_bind] at h
  rcases hcall : fs.answer c with ⟨fault | given, after⟩
  · rw [hcall] at h
    cases h
  · rw [hcall] at h
    exact ⟨given, after, rfl, h⟩

theorem change_ok {result : Except IoFault FileSystem} {given : Unit}
    (h : fs.change result = (.ok given, grown)) : result = .ok grown := by
  cases result with
  | ok after =>
      cases h
      rfl
  | error fault => cases h

/-- A write fills the file, after it has made the directories if the path has any. -/
theorem write_cases (path : Path) (data : Bytes) :
    (write path data = fill path data ∧ ∀ fs : FileSystem, fs.makeParents path = .ok fs) ∨
      ∃ parent, write path data = (call (.makeDirectories parent) >>= fun _ => fill path data) ∧
        ∀ fs : FileSystem, fs.makeParents path = fs.makeDirectories parent := by
  unfold write FileSystem.makeParents
  cases Path.parent? path with
  | none => exact Or.inl ⟨rfl, fun _ => rfl⟩
  | some parent =>
      by_cases hempty : parent = ""
      · subst hempty
        exact Or.inl ⟨rfl, fun _ => rfl⟩
      · simp only [hempty, ne_eq, not_false_eq_true, if_true]
        exact Or.inr ⟨parent, rfl, fun _ => rfl⟩

theorem write_eq (path : Path) (data : Bytes) (fs : FileSystem) :
    (write path data).run.run FileSystem.answer fs =
      match fs.makeParents path with
      | .ok made => (fill path data).run.run FileSystem.answer made
      | .error fault => (.error fault, fs) := by
  rcases write_cases path data with ⟨hwrite, hmade⟩ | ⟨parent, hwrite, hmade⟩
  · rw [hwrite, hmade]
  · rw [hwrite, hmade, run_call_bind]
    simp only [FileSystem.answer]
    cases fs.makeDirectories parent <;> rfl

private theorem fill_ok {data : Bytes}
    (h : (fill path data).run.run FileSystem.answer fs = (.ok (), grown)) :
    ∃ object opened, fs.openTruncated path ownerOnly = .ok (object, opened) ∧
      (opened.overwrite object data).setMode path ownerOnly = .ok grown := by
  obtain ⟨object, opened, hopen, h⟩ := run_call_bind_ok h
  obtain ⟨_, written, hwrite, h⟩ := run_call_bind_ok h
  obtain ⟨_, synced, hsync, h⟩ := run_call_bind_ok h
  have hmode : synced.answer (.setMode path ownerOnly) = (.ok (), grown) := h
  cases hsync
  cases hwrite
  refine ⟨object, opened, ?_, change_ok hmode⟩
  cases hopened : fs.openTruncated path ownerOnly with
  | error fault =>
      simp only [answer, hopened] at hopen
      cases hopen
  | ok result =>
      simp only [answer, hopened] at hopen
      cases hopen
      rfl

/-- A write that succeeds has made directories, and opened, written and tightened the file. -/
theorem write_ok {data : Bytes}
    (h : (write path data).run.run FileSystem.answer fs = (.ok (), grown)) :
    ∃ made object opened, fs.makeParents path = .ok made ∧
      made.openTruncated path ownerOnly = .ok (object, opened) ∧
      (opened.overwrite object data).setMode path ownerOnly = .ok grown := by
  rw [write_eq] at h
  cases hmade : fs.makeParents path with
  | ok made =>
      rw [hmade] at h
      obtain ⟨object, opened, hopened, hdone⟩ := fill_ok h
      exact ⟨made, object, opened, rfl, hopened, hdone⟩
  | error fault =>
      rw [hmade] at h
      cases h

/-- A file that has been opened is written. -/
theorem fill_of_open {object : Nat} {opened : FileSystem}
    (h : fs.openTruncated path ownerOnly = .ok (object, opened)) (data : Bytes) :
    ∃ grown, (fill path data).run.run FileSystem.answer fs = (.ok (), grown) := by
  generalize hwritten : opened.overwrite object data = written
  have hstays : written.locate path = .ok (path.place, some (.file object)) := by
    rw [← hwritten, locate_overwrite, openTruncated_locate h]
  have hlookup : written.lookup path = .ok (path.place, .file object) := by
    rw [lookup_of_locate_file hstays, (openTruncated_ok h).1]
    rfl
  obtain ⟨grown, hgrown⟩ : ∃ grown, written.setMode path ownerOnly = .ok grown := by
    unfold setMode
    rw [hlookup]
    cases hobject : written.object? object with
    | none => exact ⟨written, by simp [Bind.bind, Except.bind, hobject]⟩
    | some file =>
        exact ⟨written.setObject object { file with mode := ownerOnly },
          by simp [Bind.bind, Except.bind, hobject]⟩
  refine ⟨grown, ?_⟩
  have hopen : fs.answer (.openTruncated path ownerOnly) = (.ok object, opened) := by
    simp [answer, h]
  have hfill : opened.answer (.overwrite object data) = (.ok (), written) := by
    rw [← hwritten]
    rfl
  have hmode : written.answer (.setMode path ownerOnly) = (.ok (), grown) := by
    show written.change (written.setMode path ownerOnly) = (.ok (), grown)
    rw [hgrown]
    rfl
  have hsync : written.answer (.sync object) = (.ok (), written) := rfl
  exact (run_call_bind_of_ok hopen).trans
    ((run_call_bind_of_ok hfill).trans ((run_call_bind_of_ok hsync).trans hmode))

theorem write_of_open {object : Nat} {made opened : FileSystem}
    (hmade : fs.makeParents path = .ok made)
    (hopened : made.openTruncated path ownerOnly = .ok (object, opened)) (data : Bytes) :
    ∃ grown, (write path data).run.run FileSystem.answer fs = (.ok (), grown) := by
  rw [write_eq, hmade]
  exact fill_of_open hopened data

/-- The file of a lone name is written if it is there. -/
theorem write_of_file {object : Nat} (hlone : Path.parent? path = some "")
    (hasks : Path.asksDirectory path = false)
    (hlocate : fs.locate path = .ok (path.place, some (.file object))) (data : Bytes) :
    ∃ grown, (write path data).run.run FileSystem.answer fs = (.ok (), grown) := by
  obtain ⟨opened, hopened⟩ : ∃ opened,
      fs.openTruncated path ownerOnly = .ok (object, opened) := by
    unfold openTruncated
    rw [hlocate, hasks]
    exact ⟨_, rfl⟩
  have hmade : fs.makeParents path = .ok fs := by
    rw [FileSystem.makeParents, hlone]
    rfl
  exact write_of_open hmade hopened data

end TokenFile

/-! ### Reading -/

namespace FileSystem

theorem read_of_locate_file {object : Nat} {file : FileObject}
    (hlocate : fs.locate path = .ok (path.place, some (.file object)))
    (hasks : Path.asksDirectory path = false) (hfile : fs.object? object = some file) :
    fs.read path = .ok file.content := by
  have hlookup := lookup_of_locate_file hlocate
  rw [hasks] at hlookup
  unfold read
  rw [hlookup]
  show Except.ok ((fs.object? object).map (·.content) |>.getD []) = .ok file.content
  rw [hfile]
  rfl

/-- Reading depends on where the path leads and on the file there. -/
theorem read_eq_of_locate {object : Nat}
    (hlocate : fs.locate path = .ok (path.place, some (.file object)))
    (hgrown : grown.locate path = .ok (path.place, some (.file object)))
    (hobject : grown.object? object = fs.object? object) : grown.read path = fs.read path := by
  have hlookup : grown.lookup path = fs.lookup path := by
    rw [lookup_of_locate_file hlocate, lookup_of_locate_file hgrown]
  unfold read
  rw [hlookup]
  cases hresult : fs.lookup path with
  | error fault => rfl
  | ok result =>
      obtain ⟨found, node⟩ := result
      have hsame := lookup_ok hresult
      rw [hlocate] at hsame
      obtain rfl : Node.file object = node :=
        Option.some.inj (Prod.mk.inj (Except.ok.inj hsame)).2
      show Except.ok ((grown.object? object).map (·.content) |>.getD []) =
        .ok ((fs.object? object).map (·.content) |>.getD [])
      rw [hobject]

/-- A change of a mode keeps all names and all contents. -/
theorem setMode_keeps {mode object : Nat} {file : FileObject}
    (h : fs.setMode path mode = .ok grown) (hfile : fs.object? object = some file) :
    (∀ place, grown.node? place = fs.node? place) ∧
      ∃ kept, grown.object? object = some { file with mode := kept } := by
  rcases setMode_ok h with rfl | ⟨changed, old, hold, rfl⟩
  · exact ⟨fun _ => rfl, file.mode, hfile⟩
  · refine ⟨fun _ => rfl, ?_⟩
    by_cases hsame : object = changed
    · subst hsame
      have hrange : object < fs.objects.length := (List.getElem?_eq_some_iff.mp hfile).1
      rw [hfile] at hold
      cases hold
      exact ⟨mode, object?_setObject_self hrange _⟩
    · exact ⟨file.mode, (object?_setObject_ne hsame _).trans hfile⟩

/-- What is written is read. -/
theorem read_of_write {data : Bytes} (hsound : fs.Sound)
    (h : (TokenFile.write path data).run.run FileSystem.answer fs = (.ok (), grown)) :
    grown.read path = .ok data := by
  obtain ⟨made, object, opened, hmade, hopened, hdone⟩ := TokenFile.write_ok h
  have hadds := makeParents_adds hmade
  obtain ⟨hlocate, mode, hfile⟩ := openTruncated_file (hadds.sound hsound) hopened
  have hasks := (openTruncated_ok hopened).1
  have hwritten : (opened.overwrite object data).object? object = some ⟨data, mode⟩ := by
    simpa using object?_overwrite hfile data
  obtain ⟨hnodes, kept, hkept⟩ := setMode_keeps hdone hwritten
  have hstays : grown.locate path = .ok (path.place, some (.file object)) := by
    rw [locate_congr hnodes, locate_overwrite, hlocate]
  exact read_of_locate_file hstays hasks hkept

/-- Where a write succeeds and there is no file yet, there is nothing to read. -/
theorem read_of_no_file {data : Bytes}
    (h : (TokenFile.write path data).run.run FileSystem.answer fs = (.ok (), grown))
    (hnone : ∀ object, fs.node? path.place ≠ some (.file object)) :
    ∃ fault, fs.read path = .error fault ∧ fault.isNotFound = true := by
  obtain ⟨made, object, opened, hmade, hopened, _⟩ := TokenFile.write_ok h
  have hadds := makeParents_adds hmade
  refine ⟨.system .noEntry, ?_, rfl⟩
  have hlookup : fs.lookup path = .error (.system .noEntry) := by
    obtain ⟨_, ⟨hlocate, _⟩ | ⟨hlocate, _⟩⟩ := openTruncated_ok hopened
    · have hfile := (locate_ok hlocate).2.symm
      exact (hnone object ((hadds.node_file path.place object).mp hfile)).elim
    · have hbefore : fs.locate path = _ := locate_eq_of_locate hlocate
      rcases hadds.walk_none (locate_walk hlocate) with hwalk | hwalk
      · rw [hwalk] at hbefore
        exact lookup_of_locate_none hbefore
      · rw [hwalk] at hbefore
        exact lookup_of_locate_error hbefore
  unfold read
  rw [hlookup]
  rfl

/-- If there is a file at the place that a path names, then the path leads to it. This can only
fail where the path goes up again from a directory that does not exist. -/
def FindsFile (fs : FileSystem) (path : Path) : Prop :=
  ∀ object, fs.node? path.place = some (.file object) →
    fs.locate path = .ok (path.place, some (.file object))

/-- What lies on the way down to something is a directory. -/
private theorem node?_above (hsound : fs.Sound) {above place : Place} {node : Node}
    (habsolute : above.absolute = place.absolute) (hnames : above.names <+: place.names)
    (hnode : fs.node? place = some node) :
    above = place ∨ fs.node? above = some .directory := by
  obtain ⟨below, hbelow⟩ := hnames
  generalize hlength : below.length = length
  induction length generalizing place below node with
  | zero =>
      left
      rw [List.eq_nil_of_length_eq_zero hlength, List.append_nil] at hbelow
      cases above
      cases place
      simp_all
  | succ length ih =>
      -- What lies above the place is the directory it lies in, or lies above that one.
      right
      have hparent := hsound.closed place node hnode
      have hdropped : above.names ++ below.dropLast = place.parent.names := by
        have hbelowEmpty : below ≠ [] := by
          intro hnil
          simp [hnil] at hlength
        rw [Place.parent, ← hbelow, List.dropLast_append_of_ne_nil hbelowEmpty]
      have habove : above = place.parent ∨ fs.node? above = some .directory :=
        ih habsolute hparent below.dropLast hdropped (by simp [hlength])
      rcases habove with hsame | hdirectory
      · rw [hsame, hparent]
      · exact hdirectory

/-- A way down to a file was open before directories were made. -/
private theorem walk_file_before (hsound : fs.Sound) (hadds : AddsDirectories fs grown)
    {start found : Place} {names : List String} {object : Nat} (hup : ".." ∉ names)
    (hfile : fs.node? found = some (.file object))
    (h : grown.walk start names = .ok (found, some (.file object))) :
    fs.walk start names = .ok (found, some (.file object)) := by
  induction names generalizing start with
  | nil => cases h
  | cons name rest ih =>
      have hplace := (walk_ok h).1
      cases rest with
      | nil =>
          unfold walk at h ⊢
          split at h
          · cases h
          · next hname =>
              rw [if_neg hname]
              have hchild : found = start.child name := hplace
              rw [← hchild, hfile]
      | cons next rest =>
          have hrest : ".." ∉ next :: rest := fun member => hup (by simp [member])
          unfold walk at h ⊢
          split at h
          · cases h
          · next hname =>
              rw [if_neg hname]
              split at h
              · cases h
              · cases h
              · next hnode =>
                  -- The file was there before, so what lies above it was a directory then.
                  have hbelow : found = (next :: rest).foldl Place.child (start.child name) :=
                    hplace
                  obtain ⟨habsolute, hnames⟩ : found.absolute = (start.child name).absolute ∧
                      (start.child name).names <+: found.names := by
                    rw [hbelow]
                    exact Place.foldl_child_extends hrest
                  rcases node?_above hsound habsolute.symm hnames hfile with hsame | hdirectory
                  · rw [hsame, (hadds.node_file found object).mpr hfile] at hnode
                    cases hnode
                  · rw [hdirectory]
                    exact ih hrest h

/-- A path that never goes up finds its file, if a write to it succeeds. -/
theorem findsFile_of_write {data : Bytes} (hsound : fs.Sound) (hup : ".." ∉ Path.names path)
    (h : (TokenFile.write path data).run.run FileSystem.answer fs = (.ok (), grown)) :
    fs.FindsFile path := by
  intro object hfile
  obtain ⟨made, opened, _, hmade, hopened, _⟩ := TokenFile.write_ok h
  have hadds := makeParents_adds hmade
  have hmade : made.locate path = .ok (path.place, some (.file object)) := by
    have hnode := (hadds.node_file path.place object).mpr hfile
    obtain ⟨_, ⟨hlocate, _⟩ | ⟨hlocate, _⟩⟩ := openTruncated_ok hopened
    · rw [hlocate, (locate_ok hlocate).2, hnode]
    · rw [← (locate_ok hlocate).2] at hnode
      cases hnode
  have hbefore : fs.locate path = _ := locate_eq_of_locate hmade
  rw [walk_file_before hsound hadds hup hfile (locate_walk hmade)] at hbefore
  exact hbefore

theorem FindsFile.of_beside (h : fs.FindsFile path) (hbeside : Beside path.place fs grown) :
    grown.FindsFile path := by
  intro object hobject
  have hbefore := (hbeside.file object).mp hobject
  rw [locate_of_directories hbeside.directory (h object hbefore), hobject]

end FileSystem

/-! ### Stores -/

namespace FileStore

variable {store : FileStore} {data : Bytes}

theorem write_ok (h : (store.write data fs).1 = .ok ()) :
    data ≠ [] ∧ ∃ grown,
      (TokenFile.write store.path data).run.run FileSystem.answer fs = (.ok (), grown) ∧
        store.write data fs = (.ok (), { store with copy := some data }, grown) := by
  unfold write at h ⊢
  by_cases hempty : data.isEmpty = true
  · rw [if_pos hempty] at h
    cases h
  · rw [if_neg hempty] at h ⊢
    refine ⟨by simpa using hempty, ?_⟩
    rcases hrun : (TokenFile.write store.path data).run.run FileSystem.answer fs with
      ⟨fault | given, grown⟩
    · rw [hrun] at h
      cases h
    · exact ⟨grown, rfl, rfl⟩

theorem read_eq_ok (hread : fs.read store.path = .ok data) (hdata : data ≠ []) :
    store.read fs = .ok data := by
  unfold read
  rw [hread]
  cases data with
  | nil => exact (hdata rfl).elim
  | cons byte rest => rfl

/-- What happens beside the token's file is not seen by a reader of the token. -/
theorem read_beside (hfinds : fs.FindsFile store.path)
    (hbeside : Beside store.path.place fs grown) (hbefore : (store.write data fs).1 = .ok ())
    (hafter : (store.write data grown).1 = .ok ()) : store.read grown = store.read fs := by
  by_cases hfile : ∃ object, fs.node? store.path.place = some (.file object)
  · obtain ⟨object, hobject⟩ := hfile
    have hsame : grown.read store.path = fs.read store.path :=
      read_eq_of_locate (hfinds object hobject)
        (hfinds.of_beside hbeside object ((hbeside.file object).mpr hobject))
        (hbeside.content object hobject)
    rw [read, read, hsame]
  · have hnone (object : Nat) : fs.node? store.path.place ≠ some (.file object) := by
      intro hobject
      exact hfile ⟨object, hobject⟩
    have hgrown (object : Nat) : grown.node? store.path.place ≠ some (.file object) := by
      intro hobject
      exact hnone object ((hbeside.file object).mp hobject)
    obtain ⟨_, _, hrun, _⟩ := write_ok hbefore
    obtain ⟨fault, hread, hnotFound⟩ := read_of_no_file hrun hnone
    obtain ⟨_, _, hrunAfter, _⟩ := write_ok hafter
    obtain ⟨faultAfter, hreadAfter, hnotFoundAfter⟩ := read_of_no_file hrunAfter hgrown
    rw [read, read, hread, hreadAfter]
    simp [hnotFound, hnotFoundAfter]

end FileStore

namespace TokenStore

open FileSystem

variable {store : TokenStore} {data : Bytes}

/-- The path of a store in a file. -/
def path? : TokenStore → Option Path
  | .memory _ => none
  | .file store => some store.path

/-- Every token can be written. -/
def Accepts (store : TokenStore) (fs : FileSystem) : Prop :=
  ∀ data, data ≠ [] → (store.write data fs).1 = .ok ()

theorem memory_accepts (store : MemoryStore) (fs : FileSystem) :
    (TokenStore.memory store).Accepts fs := by
  intro data hdata
  cases data with
  | nil => exact (hdata rfl).elim
  | cons byte rest => rfl

/-- A file that is there is written by its lone name. -/
theorem file_accepts {store : FileStore} {object : Nat} (hlone : Path.parent? store.path = some "")
    (hasks : Path.asksDirectory store.path = false)
    (hlocate : fs.locate store.path = .ok (store.path.place, some (.file object))) :
    (TokenStore.file store).Accepts fs := by
  intro data hdata
  obtain ⟨grown, hrun⟩ := TokenFile.write_of_file hlone hasks hlocate data
  have hempty : ¬data.isEmpty = true := by simpa using hdata
  show (store.write data fs).1 = .ok ()
  unfold FileStore.write
  rw [if_neg hempty, hrun]

theorem write_empty (store : TokenStore) (fs : FileSystem) :
    store.write [] fs = (.error .emptyPayload, store, fs) := by
  cases store <;> rfl

/-- What a store has taken is read from it byte for byte. -/
theorem read_of_write (hsound : ∀ path, store.path? = some path → fs.Sound)
    (h : (store.write data fs).1 = .ok ()) :
    data ≠ [] ∧ (store.write data fs).2.1.read (store.write data fs).2.2 = .ok data := by
  cases store with
  | memory store =>
      cases data with
      | nil => cases h
      | cons byte rest => exact ⟨by simp, rfl⟩
  | file store =>
      obtain ⟨hdata, grown, hrun, hwrite⟩ := FileStore.write_ok h
      refine ⟨hdata, ?_⟩
      have hread : FileStore.read { store with copy := some data } grown = .ok data :=
        FileStore.read_eq_ok (FileSystem.read_of_write (hsound store.path rfl) hrun) hdata
      show ((store.write data fs).2.1).read (store.write data fs).2.2 = .ok data
      rw [hwrite]
      exact hread

theorem not_expired_of_write {failure : Failure} (h : (store.write data fs).1 = .error failure) :
    failure.isCertificateExpired = false := by
  cases store with
  | memory store =>
      cases data with
      | nil =>
          cases h
          rfl
      | cons byte rest => cases h
  | file store =>
      replace h : (store.write data fs).1 = .error failure := h
      unfold FileStore.write at h
      split at h
      · cases h
        rfl
      · split at h
        · cases h
        · cases h
          rfl

/-- Where tokens can be written, a file is found at the end of any path that never goes up. -/
theorem Accepts.findsFile {path : Path} (h : store.Accepts fs) (hpath : store.path? = some path)
    (hsound : fs.Sound) (hup : ".." ∉ Path.names path) : fs.FindsFile path := by
  cases store with
  | memory store => cases hpath
  | file store =>
      cases hpath
      have hwritten : (store.write [0] fs).1 = .ok () := h [0] (by simp)
      obtain ⟨_, _, hrun, _⟩ := FileStore.write_ok hwritten
      exact findsFile_of_write hsound hup hrun

theorem read_beside
    (hbeside : ∀ path, store.path? = some path → fs.FindsFile path ∧ Beside path.place fs grown)
    (hbefore : store.Accepts fs) (hafter : store.Accepts grown) :
    store.read grown = store.read fs := by
  cases store with
  | memory store => rfl
  | file store =>
      obtain ⟨hfinds, hplace⟩ := hbeside store.path rfl
      have hwritten : (store.write [0] fs).1 = .ok () := hbefore [0] (by simp)
      have hwrittenAfter : (store.write [0] grown).1 = .ok () := hafter [0] (by simp)
      exact FileStore.read_beside hfinds hplace hwritten hwrittenAfter

end TokenStore

end WorkloadIdentity
