import Mathlib.Data.List.Induction
import WorkloadIdentity.Proofs.FileSystem.Slot

/-!
The two places for a token side by side. To whoever writes, reads and deletes tokens, a file that
nobody else touches is the same as a slot in memory, except that a deletion of nothing is reported.
The relation `Paired` between the two is kept by every operation.
-/

namespace WorkloadIdentity

open FileSystem

variable {fs : FileSystem} {path : Path} {data : Bytes}

/-! ### A file as a slot -/

namespace FileStore

theorem read_of_creatable {store : FileStore} (h : fs.Creatable store.path) :
    store.read fs = .error .noData := by
  unfold read FileSystem.read
  rw [h.absent]
  rfl

theorem write_of_opens (store : FileStore) (hsound : fs.Sound)
    (hopens : ∃ made result, fs.makeParents store.path = .ok made ∧
      made.openTruncated store.path ownerOnly = .ok result) (hdata : data ≠ []) :
    ∃ grown, store.write data fs = (.ok (), { store with copy := some data }, grown) ∧
      grown.Holds store.path data := by
  obtain ⟨grown, hrun, hholds⟩ := TokenFile.write_of_opens hsound hopens data
  have hempty : ¬data.isEmpty = true := by simpa using hdata
  refine ⟨grown, ?_, hholds⟩
  unfold write
  rw [if_neg hempty, hrun]

theorem delete_of_creatable (store : FileStore) (h : fs.Creatable store.path) :
    store.delete fs = (.error (.tokenFileMissing store.path), { store with copy := none }, fs) := by
  unfold delete
  dsimp only
  rw [TokenFile.erase_of_absent h.absent]
  rfl

theorem delete_of_holds (store : FileStore) (h : fs.Holds store.path data) :
    ∃ grown, store.delete fs = (.ok (), { store with copy := none }, grown) ∧
      grown.Creatable store.path := by
  obtain ⟨grown, hrun, hfree⟩ := TokenFile.erase_of_holds h
  refine ⟨grown, ?_, hfree⟩
  unfold delete
  dsimp only
  rw [hrun]

end FileStore

/-! ### Operations -/

/-- What a store's users do. -/
inductive StoreOp where
  | write (data : Bytes)
  | read
  | delete
deriving DecidableEq, Repr

/-- A store with the files around it. -/
structure Depot where
  store : TokenStore
  files : FileSystem

namespace Depot

/-- The token, if there is one to read. -/
def token (depot : Depot) : Except Failure Bytes := depot.store.read depot.files

/-- One operation. Only a read has something to give. -/
def perform (depot : Depot) : StoreOp → Except Failure (Option Bytes) × Depot
  | .write data =>
    let (result, store, files) := depot.store.write data depot.files
    (result.map fun _ => none, ⟨store, files⟩)
  | .read => (depot.token.map some, depot)
  | .delete =>
    let (result, store, files) := depot.store.delete depot.files
    (result.map fun _ => none, ⟨store, files⟩)

def performAll (depot : Depot) (ops : List StoreOp) : Depot :=
  ops.foldl (fun depot op => (depot.perform op).2) depot

/-- A fresh store in memory after some operations. -/
def memoryAfter (fs : FileSystem) (ops : List StoreOp) : Depot :=
  performAll ⟨.memory .empty, fs⟩ ops

/-- A fresh store at a path after some operations. -/
def fileAfter (path : Path) (fs : FileSystem) (ops : List StoreOp) : Depot :=
  performAll ⟨.file (.create path), fs⟩ ops

theorem perform_write_empty (depot : Depot) :
    depot.perform (.write []) = (.error .emptyPayload, depot) := by
  simp only [perform, TokenStore.write_empty]
  rfl

theorem performAll_append (depot : Depot) (ops : List StoreOp) (op : StoreOp) :
    depot.performAll (ops ++ [op]) = ((depot.performAll ops).perform op).2 := by
  simp [performAll]

end Depot

/-! ### The last token written -/

/-- The data of the last write that was not empty, if no deletion came after it. -/
def LastWritten (ops : List StoreOp) (data : Bytes) : Prop :=
  ∃ before after, ops = before ++ .write data :: after ∧ data ≠ [] ∧
    ∀ op ∈ after, op ≠ .delete ∧ ∀ later, op = .write later → later = []

/-- What an operation leaves of a token. -/
def StoreOp.leave (token : Option Bytes) : StoreOp → Option Bytes
  | .write data => if data.isEmpty then token else some data
  | .read => token
  | .delete => none

theorem StoreOp.leave_write (hdata : data ≠ []) (token : Option Bytes) :
    StoreOp.leave token (.write data) = some data := by
  simp [leave, hdata]

/-- The token that is there after some operations. -/
def tokenAfter (ops : List StoreOp) : Option Bytes := ops.foldl StoreOp.leave none

theorem tokenAfter_append (ops : List StoreOp) (op : StoreOp) :
    tokenAfter (ops ++ [op]) = op.leave (tokenAfter ops) := by
  simp [tokenAfter]

theorem not_lastWritten_nil : ¬LastWritten [] data := by
  rintro ⟨before, after, hops, _⟩
  simp at hops

/-- The last operation is the write, or does nothing to the token of an earlier one. -/
theorem lastWritten_append {ops : List StoreOp} {op : StoreOp} :
    LastWritten (ops ++ [op]) data ↔
      (op = .write data ∧ data ≠ []) ∨
        (LastWritten ops data ∧ op ≠ .delete ∧ ∀ later, op = .write later → later = []) := by
  constructor
  · rintro ⟨before, after, hops, hdata, hafter⟩
    rcases List.eq_nil_or_concat after with rfl | ⟨front, last, rfl⟩
    · obtain ⟨_, hop⟩ := List.append_inj' hops rfl
      exact Or.inl ⟨by simpa using hop, hdata⟩
    · have hops : ops ++ [op] = (before ++ .write data :: front) ++ [last] := by simpa using hops
      obtain ⟨hfront, hlast⟩ := List.append_inj' hops rfl
      cases hlast
      have hearlier : LastWritten ops data :=
        ⟨before, front, hfront, hdata, fun other hother => hafter other (by simp [hother])⟩
      exact Or.inr ⟨hearlier, hafter op (by simp)⟩
  · rintro (⟨rfl, hdata⟩ | ⟨⟨before, after, rfl, hdata, hafter⟩, hop⟩)
    · exact ⟨ops, [], rfl, hdata, by simp⟩
    · refine ⟨before, after ++ [op], by simp, hdata, ?_⟩
      intro other hother
      rcases List.mem_append.mp hother with hother | hother
      · exact hafter other hother
      · rwa [List.mem_singleton.mp hother]

theorem tokenAfter_eq_some_iff (ops : List StoreOp) (data : Bytes) :
    tokenAfter ops = some data ↔ LastWritten ops data := by
  -- From the end, since it is the last operation that settles what is left.
  induction ops using List.reverseRecOn with
  | nil => simp [tokenAfter, not_lastWritten_nil]
  | append_singleton ops op ih =>
      rw [tokenAfter_append, lastWritten_append, ← ih]
      cases op with
      | write written =>
          by_cases hwritten : written = []
          · simp [StoreOp.leave, hwritten]
          · rw [StoreOp.leave_write hwritten]
            constructor
            · rintro ⟨rfl⟩
              exact Or.inl ⟨rfl, hwritten⟩
            · rintro (⟨⟨rfl⟩, _⟩ | ⟨_, _, hempty⟩)
              · rfl
              · exact (hwritten (hempty written rfl)).elim
      | read => simp [StoreOp.leave]
      | delete => simp [StoreOp.leave]

theorem tokenAfter_eq_none_iff (ops : List StoreOp) :
    tokenAfter ops = none ↔ ∀ data, ¬LastWritten ops data := by
  rw [Option.eq_none_iff_forall_ne_some]
  simp only [ne_eq, tokenAfter_eq_some_iff]

/-! ### Side by side -/

/-- A store in memory and one in a file, both with this token. The one in memory leaves the files
alone. -/
structure Paired (fs : FileSystem) (path : Path) (token : Option Bytes) (memory file : Depot) :
    Prop where
  slot : memory = ⟨.memory ⟨token⟩, fs⟩
  copy : file.store = .file ⟨path, token⟩
  free : token = none → file.files.Creatable path
  held : ∀ data, token = some data → data ≠ [] ∧ file.files.Holds path data

namespace Paired

variable {token : Option Bytes} {memory file : Depot}

theorem sound (h : Paired fs path token memory file) : file.files.Sound := by
  cases htoken : token with
  | none => exact (h.free htoken).sound
  | some data => exact (h.held data htoken).2.sound

theorem opens (h : Paired fs path token memory file) :
    ∃ made result, file.files.makeParents path = .ok made ∧
      made.openTruncated path ownerOnly = .ok result := by
  cases htoken : token with
  | none => exact (h.free htoken).opens
  | some data => exact (h.held data htoken).2.opens

theorem fresh (h : fs.Creatable path) :
    Paired fs path none ⟨.memory .empty, fs⟩ ⟨.file (.create path), fs⟩ where
  slot := rfl
  copy := rfl
  free _ := h
  held data htoken := by cases htoken

/-! #### Reads -/

theorem memory_token (h : Paired fs path token memory file) :
    memory.token = (MemoryStore.mk token).read := by
  rw [h.slot]
  rfl

theorem file_token (h : Paired fs path token memory file) :
    file.token = (MemoryStore.mk token).read := by
  have hread : file.token = (FileStore.mk path token).read file.files := by
    rw [Depot.token, h.copy]
    rfl
  rw [hread]
  cases htoken : token with
  | none => exact FileStore.read_of_creatable (h.free htoken)
  | some data => exact FileStore.read_eq_ok (h.held data htoken).2.read (h.held data htoken).1

theorem memory_shown (h : Paired fs path token memory file) :
    memory.store.shown =
      "MemoryAccessToken \x7b populated: " ++ toString memory.token.isOk ++ " \x7d" := by
  rw [h.memory_token, h.slot]
  cases token <;> rfl

theorem file_shown (h : Paired fs path token memory file) :
    file.store.shown = "FileAccessToken \x7b path: " ++ Text.quoted path ++ ", populated: " ++
      toString file.token.isOk ++ " \x7d" := by
  rw [h.file_token, h.copy]
  cases token <;> rfl

/-! #### Writes -/

theorem memory_write (h : Paired fs path token memory file) (hdata : data ≠ []) :
    memory.perform (.write data) = (.ok none, ⟨.memory ⟨some data⟩, fs⟩) := by
  rw [h.slot]
  cases data with
  | nil => exact (hdata rfl).elim
  | cons byte rest => rfl

theorem file_write (h : Paired fs path token memory file) (hdata : data ≠ []) :
    ∃ grown, file.perform (.write data) = (.ok none, ⟨.file ⟨path, some data⟩, grown⟩) ∧
      grown.Holds path data := by
  obtain ⟨grown, hwrite, hholds⟩ :=
    FileStore.write_of_opens ⟨path, token⟩ h.sound h.opens hdata
  refine ⟨grown, ?_, hholds⟩
  unfold Depot.perform
  rw [h.copy]
  simp only [TokenStore.write, hwrite]
  rfl

/-! #### Deletions -/

theorem memory_delete (h : Paired fs path token memory file) :
    memory.perform .delete = (.ok none, ⟨.memory .empty, fs⟩) := by
  rw [h.slot]
  rfl

theorem file_delete_of_none (h : Paired fs path none memory file) :
    file.perform .delete =
      (.error (.tokenFileMissing path), ⟨.file ⟨path, none⟩, file.files⟩) := by
  have hdelete := FileStore.delete_of_creatable ⟨path, none⟩ (h.free rfl)
  unfold Depot.perform
  rw [h.copy]
  simp only [TokenStore.delete, hdelete]
  rfl

theorem file_delete_of_some (h : Paired fs path (some data) memory file) :
    ∃ grown, file.perform .delete = (.ok none, ⟨.file ⟨path, none⟩, grown⟩) ∧
      grown.Creatable path := by
  obtain ⟨grown, hdelete, hfree⟩ :=
    FileStore.delete_of_holds ⟨path, some data⟩ (h.held data rfl).2
  refine ⟨grown, ?_, hfree⟩
  unfold Depot.perform
  rw [h.copy]
  simp only [TokenStore.delete, hdelete]
  rfl

/-! #### Every operation -/

theorem perform (h : Paired fs path token memory file) (op : StoreOp) :
    Paired fs path (op.leave token) (memory.perform op).2 (file.perform op).2 := by
  cases op with
  | write data =>
      by_cases hdata : data = []
      · subst hdata
        rwa [Depot.perform_write_empty, Depot.perform_write_empty]
      · obtain ⟨grown, hwrite, hholds⟩ := h.file_write hdata
        rw [h.memory_write hdata, hwrite, StoreOp.leave_write hdata]
        refine ⟨rfl, rfl, by simp, ?_⟩
        rintro other ⟨rfl⟩
        exact ⟨hdata, hholds⟩
  | read => exact h
  | delete =>
      rw [h.memory_delete]
      cases token with
      | none =>
          rw [h.file_delete_of_none]
          exact ⟨rfl, rfl, fun _ => h.free rfl, by simp [StoreOp.leave]⟩
      | some data =>
          obtain ⟨grown, hdelete, hfree⟩ := h.file_delete_of_some
          rw [hdelete]
          exact ⟨rfl, rfl, fun _ => hfree, by simp [StoreOp.leave]⟩

theorem results (h : Paired fs path token memory file) {op : StoreOp}
    (hop : op ≠ .delete ∨ token ≠ none) : (file.perform op).1 = (memory.perform op).1 := by
  cases op with
  | write data =>
      by_cases hdata : data = []
      · subst hdata
        rw [Depot.perform_write_empty, Depot.perform_write_empty]
      · obtain ⟨grown, hwrite, _⟩ := h.file_write hdata
        rw [h.memory_write hdata, hwrite]
  | read =>
      show file.token.map some = memory.token.map some
      rw [h.file_token, h.memory_token]
  | delete =>
      cases token with
      | none => simp at hop
      | some data =>
          obtain ⟨grown, hdelete, _⟩ := h.file_delete_of_some
          rw [h.memory_delete, hdelete]

end Paired

theorem paired_after (h : fs.Creatable path) (ops : List StoreOp) :
    Paired fs path (tokenAfter ops) (Depot.memoryAfter fs ops) (Depot.fileAfter path fs ops) := by
  induction ops using List.reverseRecOn with
  | nil => exact Paired.fresh h
  | append_singleton ops op ih =>
      rw [tokenAfter_append, Depot.memoryAfter, Depot.fileAfter, Depot.performAll_append,
        Depot.performAll_append]
      exact ih.perform op

/-! ### What users see -/

namespace Depot

/-- What is read is the last token written, and an empty one is refused. -/
structure Serves (ops : List StoreOp) (depot : Depot) : Prop where
  data : ∀ data, depot.token = .ok data ↔ LastWritten ops data
  noData : (∀ data, ¬LastWritten ops data) → depot.token = .error .noData
  empty : depot.perform (.write []) = (.error .emptyPayload, depot)

theorem serves_of_token {ops : List StoreOp} {depot : Depot}
    (h : depot.token = (MemoryStore.mk (tokenAfter ops)).read) : depot.Serves ops where
  data data := by
    rw [h, ← tokenAfter_eq_some_iff]
    cases tokenAfter ops <;> simp [MemoryStore.read]
  noData hnone := by
    rw [h, (tokenAfter_eq_none_iff ops).mpr hnone]
    rfl
  empty := perform_write_empty depot

/-- After any operations, a fresh store in memory and a fresh one in a file that nobody else touches
give the same results, but for the deletion of nothing. Both serve the token that was written last
and show whether there is one, and the file that a write leaves has the token and is for its owner
alone. -/
theorem stores_give_same_results (h : fs.Creatable path) (ops : List StoreOp) :
    (∀ op, (op ≠ .delete ∨ ∃ data, LastWritten ops data) →
      ((fileAfter path fs ops).perform op).1 = ((memoryAfter fs ops).perform op).1) ∧
    ((∀ data, ¬LastWritten ops data) →
      ((memoryAfter fs ops).perform .delete).1 = .ok none ∧
        ((fileAfter path fs ops).perform .delete).1 = .error (.tokenFileMissing path)) ∧
    (memoryAfter fs ops).Serves ops ∧ (fileAfter path fs ops).Serves ops ∧
    (memoryAfter fs ops).store.shown =
      "MemoryAccessToken \x7b populated: " ++
        toString (memoryAfter fs ops).token.isOk ++ " \x7d" ∧
    (fileAfter path fs ops).store.shown =
      "FileAccessToken \x7b path: " ++ Text.quoted path ++ ", populated: " ++
        toString (fileAfter path fs ops).token.isOk ++ " \x7d" ∧
    ∀ data, ((fileAfter path fs ops).perform (.write data)).1 = .ok none →
      ((fileAfter path fs ops).perform (.write data)).2.files.file? path =
        some ⟨data, ownerOnly⟩ := by
  have hpaired := paired_after h ops
  refine ⟨?_, ?_, serves_of_token hpaired.memory_token, serves_of_token hpaired.file_token,
    hpaired.memory_shown, hpaired.file_shown, ?_⟩
  · intro op hop
    apply hpaired.results
    simpa [Option.ne_none_iff_exists', tokenAfter_eq_some_iff] using hop
  · intro hnone
    rw [(tokenAfter_eq_none_iff ops).mpr hnone] at hpaired
    rw [hpaired.memory_delete, hpaired.file_delete_of_none]
    exact ⟨rfl, rfl⟩
  · intro data hwritten
    have hdata : data ≠ [] := by
      rintro rfl
      rw [perform_write_empty] at hwritten
      cases hwritten
    obtain ⟨grown, hwrite, hholds⟩ := hpaired.file_write hdata
    rw [hwrite]
    exact hholds.file?

namespace Sample

/-- A path whose directory is to be made by the first write. -/
def tokenPath : Path := "run/token"

theorem creatable : FileSystem.empty.Creatable tokenPath where
  sound := FileSystem.empty_sound
  plain := by decide
  absent := by rfl
  parents := ⟨FileSystem.empty.setNode ⟨false, ["run"]⟩ (some .directory), by rfl, by rfl⟩

/-- Two tokens, of which the first is deleted. -/
def handover : List StoreOp := [.write [1, 2], .delete, .write [3], .write [], .read]

theorem lastWritten_handover : LastWritten handover [3] :=
  ⟨[.write [1, 2], .delete], [.write [], .read], rfl, by decide, by simp⟩

end Sample

theorem stores_give_same_results_handover :
    let memory := memoryAfter .empty Sample.handover
    let file := fileAfter Sample.tokenPath .empty Sample.handover
    FileSystem.empty.Creatable Sample.tokenPath ∧
      memory.token = .ok [3] ∧ file.token = .ok [3] ∧
      (file.perform .delete).1 = (memory.perform .delete).1 ∧
      (fileAfter Sample.tokenPath .empty []).perform .delete =
        (.error (.tokenFileMissing Sample.tokenPath), fileAfter Sample.tokenPath .empty []) := by
  intro memory file
  obtain ⟨hresults, _, hmemory, hfile, _⟩ :=
    stores_give_same_results Sample.creatable Sample.handover
  exact ⟨Sample.creatable, (hmemory.data _).mpr Sample.lastWritten_handover,
    (hfile.data _).mpr Sample.lastWritten_handover,
    hresults .delete (Or.inr ⟨_, Sample.lastWritten_handover⟩), by rfl⟩

end Depot

end WorkloadIdentity
