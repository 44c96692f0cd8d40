import WorkloadIdentity.Proofs.FileSystem.Slot
import WorkloadIdentity.Proofs.Program.Trace

/-!
A token that is replaced in its file, seen by those who read between the calls of the write. Any
call may fail. The file is emptied when it is opened, so from there on the old token is gone, and
readers find as much of the new one as has been written.
-/

namespace WorkloadIdentity

open FileSystem

variable {fs next after : FileSystem} {path : Path} {data : Bytes}

/-- A call to the file system with its answer. -/
abbrev FileEvent : Type := Program.Event FileCall FileCall.Answer

namespace FileSystem

/-! ### Calls that may fail -/

/-- How a call may go. It does what it should or nothing, or it fails when only some directories are
made, or only the beginning of the data is written. -/
inductive Goes (fs : FileSystem) : (call : FileCall) → call.Answer → FileSystem → Prop
  | answered (call : FileCall) : Goes fs call (fs.answer call).1 (fs.answer call).2
  | refused (call : FileCall) (fault : IoFault) : Goes fs call (.error fault) fs
  | someMade (path : Path) (fault : IoFault) {grown : FileSystem} :
      AddsDirectories fs grown → Goes fs (.makeDirectories path) (.error fault) grown
  | cut (object : Nat) (data : Bytes) (count : Nat) (fault : IoFault) :
      Goes fs (.overwrite object data) (.error fault) (fs.overwrite object (data.take count))

/-- The files after some calls, each of which went as it may go. -/
inductive Leads : FileSystem → List FileEvent → FileSystem → Prop
  | nil (fs : FileSystem) : Leads fs [] fs
  | cons {fs next after : FileSystem} {call : FileCall} {answer : call.Answer}
      {events : List FileEvent} :
      Goes fs call answer next → Leads next events after →
      Leads fs (⟨call, answer⟩ :: events) after

theorem leads_nil (h : fs.Leads [] after) : after = fs := by
  cases h
  rfl

theorem leads_cons {call : FileCall} {answer : call.Answer} {events : List FileEvent}
    (h : fs.Leads (⟨call, answer⟩ :: events) after) :
    ∃ next, fs.Goes call answer next ∧ next.Leads events after := by
  cases h with
  | cons hgoes hrest => exact ⟨_, hgoes, hrest⟩

/-- A call that does not fail has done what it should. -/
theorem Goes.of_ok {call : FileCall} {given : call.Result}
    (h : fs.Goes call (.ok given) next) : fs.answer call = (.ok given, next) := by
  generalize hanswer : (Except.ok given : call.Answer) = answer at h
  cases h with
  | answered => rfl
  | refused fault => cases hanswer
  | someMade => cases hanswer
  | cut => cases hanswer

theorem Goes.of_answer {call : FileCall} {answer : call.Answer}
    (h : fs.answer call = (answer, next)) : fs.Goes call answer next := by
  have hgoes : fs.Goes call (fs.answer call).1 (fs.answer call).2 := .answered call
  rwa [h] at hgoes

theorem Goes.makeDirectories {answer : (FileCall.makeDirectories path).Answer}
    (h : fs.Goes (.makeDirectories path) answer next) : AddsDirectories fs next := by
  cases h with
  | answered =>
      show AddsDirectories fs (fs.change (fs.makeDirectories path)).2
      cases hmade : fs.makeDirectories path with
      | ok made => exact makeDirectories_adds hmade
      | error fault => exact .refl fs
  | refused fault => exact .refl fs
  | someMade _ _ hadds => exact hadds

theorem Goes.openTruncated_ok {mode object : Nat}
    (h : fs.Goes (.openTruncated path mode) (.ok object) next) :
    fs.openTruncated path mode = .ok (object, next) := by
  have hanswer := h.of_ok
  cases hopened : fs.openTruncated path mode with
  | ok result =>
      simp only [FileSystem.answer, hopened] at hanswer
      cases hanswer
      rfl
  | error fault =>
      simp only [FileSystem.answer, hopened] at hanswer
      cases hanswer

theorem Goes.openTruncated_error {mode : Nat} {fault : IoFault}
    (h : fs.Goes (.openTruncated path mode) (.error fault) next) : next = fs := by
  generalize hanswer : (Except.error fault : (FileCall.openTruncated path mode).Answer) = answer at h
  cases h with
  | answered =>
      cases hopened : fs.openTruncated path mode with
      | ok result => simp [FileSystem.answer, hopened] at hanswer
      | error refused => simp [FileSystem.answer, hopened]
  | refused fault => rfl

theorem Goes.overwrite_error {object : Nat} {fault : IoFault}
    (h : fs.Goes (.overwrite object data) (.error fault) next) :
    next = fs ∨ ∃ count, next = fs.overwrite object (data.take count) := by
  generalize hanswer : (Except.error fault : (FileCall.overwrite object data).Answer) = answer at h
  cases h with
  | answered => cases hanswer
  | refused => exact Or.inl rfl
  | cut _ _ count => exact Or.inr ⟨count, rfl⟩

/-! ### A file by its object -/

/-- A path leads to a file, which has this content. -/
structure FileAt (fs : FileSystem) (path : Path) (object : Nat) (content : Bytes) : Prop where
  plain : Path.asksDirectory path = false
  located : fs.locate path = .ok (path.place, some (.file object))
  content : ∃ mode, fs.object? object = some ⟨content, mode⟩

namespace FileAt

variable {object : Nat} {content : Bytes}

theorem read (h : fs.FileAt path object content) : fs.read path = .ok content := by
  obtain ⟨mode, hobject⟩ := h.content
  exact read_of_locate_file h.located h.plain hobject

theorem of_openTruncated {mode : Nat} (hsound : fs.Sound)
    (h : fs.openTruncated path mode = .ok (object, next)) : next.FileAt path object [] := by
  obtain ⟨hlocate, hobject⟩ := openTruncated_file hsound h
  exact ⟨(FileSystem.openTruncated_ok h).1, hlocate, hobject⟩

theorem overwrite (h : fs.FileAt path object []) (data : Bytes) :
    (fs.overwrite object data).FileAt path object data := by
  obtain ⟨mode, hobject⟩ := h.content
  refine ⟨h.plain, (locate_overwrite fs object data path).trans h.located, mode, ?_⟩
  simpa using object?_overwrite hobject data

theorem sync {answer : (FileCall.sync object).Answer} (h : fs.FileAt path object content)
    (hgoes : fs.Goes (.sync object) answer next) : next.FileAt path object content := by
  cases hgoes with
  | answered => exact h
  | refused => exact h

theorem setMode {mode : Nat} {answer : (FileCall.setMode path mode).Answer}
    (h : fs.FileAt path object content) (hgoes : fs.Goes (.setMode path mode) answer next) :
    next.FileAt path object content := by
  cases hgoes with
  | answered =>
      show (fs.change (fs.setMode path mode)).2.FileAt path object content
      cases hdone : fs.setMode path mode with
      | ok grown =>
          obtain ⟨old, hobject⟩ := h.content
          obtain ⟨hnodes, kept, hkept⟩ := setMode_keeps hdone hobject
          exact ⟨h.plain, (locate_congr hnodes path).trans h.located, kept, hkept⟩
      | error fault => exact h
  | refused => exact h

end FileAt

end FileSystem

/-! ### The calls of a write -/

namespace TokenFile

variable {events : List FileEvent} {old : Bytes}

theorem begins_call_bind {α : Type} {c : FileCall} {f : c.Result → ExceptT IoFault FileProgram α}
    (h : (call c >>= f).run.Begins events) :
    events = [] ∨ (∃ fault, events = [⟨c, .error fault⟩]) ∨
      ∃ given rest, events = ⟨c, .ok given⟩ :: rest ∧ (f given).run.Begins rest := by
  have hperform : (Program.perform c fun answer => ExceptT.bindCont f answer).Begins events := h
  rcases Program.begins_perform_iff.mp hperform with rfl | ⟨answer, rest, rfl, hrest⟩
  · exact Or.inl rfl
  · cases answer with
    | error fault =>
        obtain rfl := Program.begins_done_iff.mp hrest
        exact Or.inr (Or.inl ⟨fault, rfl⟩)
    | ok given => exact Or.inr (Or.inr ⟨given, rest, rfl, hrest⟩)

theorem begins_call {c : FileCall} (h : (call c).run.Begins events) :
    events = [] ∨ ∃ answer, events = [⟨c, answer⟩] := by
  have hperform : (Program.perform c Program.done).Begins events := h
  rcases Program.begins_perform_iff.mp hperform with rfl | ⟨answer, rest, rfl, hrest⟩
  · exact Or.inl rfl
  · obtain rfl := Program.begins_done_iff.mp hrest
    exact Or.inr ⟨answer, rfl⟩

/-- What is in the file after some calls of a write: the old token until the file is opened, then
nothing, then what has been written of the new one. -/
inductive Seen (path : Path) (old new : Bytes) : List FileEvent → Bytes → Prop
  | old {events : List FileEvent} :
      (∀ object, ⟨.openTruncated path ownerOnly, .ok object⟩ ∉ events) →
      Seen path old new events old
  | emptied (before : List FileEvent) (object : Nat) :
      Seen path old new (before ++ [⟨.openTruncated path ownerOnly, .ok object⟩]) []
  | cut (before : List FileEvent) (object count : Nat) (fault : IoFault) :
      Seen path old new (before ++ [⟨.overwrite object new, .error fault⟩]) (new.take count)
  | new {events : List FileEvent} {object : Nat} :
      ⟨.overwrite object new, .ok ()⟩ ∈ events → Seen path old new events new

theorem Seen.after_directories {new content : Bytes} {parent : Path}
    {answer : (FileCall.makeDirectories parent).Answer} (h : Seen path old new events content) :
    Seen path old new (⟨.makeDirectories parent, answer⟩ :: events) content := by
  cases h with
  | old hkept =>
      apply Seen.old
      intro object hopened
      rcases List.mem_cons.mp hopened with hdirectories | hopened
      · cases hdirectories
      · exact hkept object hopened
  | emptied before object => exact Seen.emptied (_ :: before) object
  | cut before object count fault => exact Seen.cut (_ :: before) object count fault
  | new hwritten => exact Seen.new (List.mem_cons_of_mem _ hwritten)

/-- What is written stays in the file to the end of the write. -/
theorem fileAt_of_written {object : Nat} (h : fs.FileAt path object data)
    (hbegins : (call (.sync object) >>= fun _ => call (.setMode path ownerOnly)).run.Begins events)
    (hleads : fs.Leads events after) : after.FileAt path object data := by
  rcases begins_call_bind hbegins with rfl | ⟨fault, rfl⟩ | ⟨_, rest, rfl, hmode⟩
  · rwa [leads_nil hleads]
  · obtain ⟨next, hsync, hleads⟩ := leads_cons hleads
    rw [leads_nil hleads]
    exact h.sync hsync
  · obtain ⟨next, hsync, hleads⟩ := leads_cons hleads
    rcases begins_call hmode with rfl | ⟨answer, rfl⟩
    · rw [leads_nil hleads]
      exact h.sync hsync
    · obtain ⟨_, hmode, hleads⟩ := leads_cons hleads
      rw [leads_nil hleads]
      exact (h.sync hsync).setMode hmode

theorem seen_of_fill {new : Bytes} (hsound : fs.Sound) (hold : fs.read path = .ok old)
    (hbegins : (fill path new).run.Begins events) (hleads : fs.Leads events after) :
    ∃ content, Seen path old new events content ∧ after.read path = .ok content := by
  -- Call by call: the write has not come to it, or it has failed and is the last, or it has worked.
  rcases begins_call_bind hbegins with rfl | ⟨fault, rfl⟩ | ⟨object, rest, rfl, hfill⟩
  · rw [leads_nil hleads]
    exact ⟨old, .old (by simp), hold⟩
  · obtain ⟨next, hopen, hrest⟩ := leads_cons hleads
    rw [leads_nil hrest, hopen.openTruncated_error]
    refine ⟨old, .old ?_, hold⟩
    intro object hopened
    cases List.mem_singleton.mp hopened
  · obtain ⟨opened, hopen, hrest⟩ := leads_cons hleads
    have hempty := FileAt.of_openTruncated hsound hopen.openTruncated_ok
    rcases begins_call_bind hfill with rfl | ⟨fault, rfl⟩ | ⟨_, rest, rfl, htail⟩
    · rw [leads_nil hrest]
      exact ⟨[], .emptied [] object, hempty.read⟩
    · obtain ⟨next, hwrite, hrest⟩ := leads_cons hrest
      rw [leads_nil hrest]
      rcases hwrite.overwrite_error with rfl | ⟨count, rfl⟩
      · exact ⟨_, .cut [_] object 0 fault, hempty.read⟩
      · exact ⟨_, .cut [_] object count fault, (hempty.overwrite _).read⟩
    · obtain ⟨next, hwrite, hrest⟩ := leads_cons hrest
      cases hwrite.of_ok
      have hwritten := fileAt_of_written (hempty.overwrite new) htail hrest
      exact ⟨new, .new (List.mem_cons_of_mem _ List.mem_cons_self), hwritten.read⟩

theorem seen_of_write {new : Bytes} (hsound : fs.Sound) (hold : fs.read path = .ok old)
    (hbegins : (write path new).run.Begins events) (hleads : fs.Leads events after) :
    ∃ content, Seen path old new events content ∧ after.read path = .ok content := by
  rcases write_cases path new with ⟨hwrite, _⟩ | ⟨parent, hwrite, _⟩
  · rw [hwrite] at hbegins
    exact seen_of_fill hsound hold hbegins hleads
  · rw [hwrite] at hbegins
    rcases begins_call_bind hbegins with rfl | ⟨fault, rfl⟩ | ⟨_, rest, rfl, hfill⟩
    · rw [leads_nil hleads]
      exact ⟨old, .old (by simp), hold⟩
    · obtain ⟨next, hmake, hrest⟩ := leads_cons hleads
      rw [leads_nil hrest]
      exact ⟨old, .after_directories (.old (by simp)), hmake.makeDirectories.read_ok hold⟩
    · obtain ⟨made, hmake, hrest⟩ := leads_cons hleads
      have hadds := hmake.makeDirectories
      obtain ⟨content, hseen, hread⟩ :=
        seen_of_fill (hadds.sound hsound) (hadds.read_ok hold) hfill hrest
      exact ⟨content, hseen.after_directories, hread⟩

/-! ### A write that fails -/

theorem yields_call_bind_of_ok {α : Type} {c : FileCall}
    {f : c.Result → ExceptT IoFault FileProgram α} {given : c.Result} {rest : List FileEvent}
    {result : Except IoFault α} (h : (f given).run.Yields rest result) :
    (call c >>= f).run.Yields (⟨c, .ok given⟩ :: rest) result :=
  Program.Yields.perform c (fun answer => ExceptT.bindCont f answer) (.ok given) h

theorem yields_call_bind_of_error {α : Type} (c : FileCall)
    (f : c.Result → ExceptT IoFault FileProgram α) (fault : IoFault) :
    (call c >>= f).run.Yields [⟨c, .error fault⟩] (.error fault) :=
  Program.Yields.perform c (fun answer => ExceptT.bindCont f answer) (.error fault) (.done _)

/-- Where the old token can be read, a write may end with a fault after any beginning of the new one
has come into the file. -/
theorem write_breaks_off {content : Bytes} (hsound : fs.Sound) (hread : fs.read path = .ok content)
    (hparents : fs.HasParents path) (new : Bytes) (count : Nat) (fault : IoFault) :
    ∃ events after, (write path new).run.Yields events (.error fault) ∧ fs.Leads events after ∧
      after.read path = .ok (new.take count) := by
  obtain ⟨⟨object, opened⟩, hopened⟩ := openTruncated_of_read hread ownerOnly
  have hempty := FileAt.of_openTruncated hsound hopened
  have hopen : fs.Goes (.openTruncated path ownerOnly) (.ok object) opened :=
    Goes.of_answer (by simp [answer, hopened])
  have hcut : opened.Leads [⟨.overwrite object new, .error fault⟩] _ :=
    .cons (.cut object new count fault) (.nil _)
  have hfill : (fill path new).run.Yields _ (.error fault) :=
    yields_call_bind_of_ok (yields_call_bind_of_error (.overwrite object new) _ fault)
  rcases write_cases path new with ⟨hwrite, _⟩ | ⟨parent, hwrite, hmade⟩
  · rw [hwrite]
    exact ⟨_, _, hfill, .cons hopen hcut, (hempty.overwrite _).read⟩
  · have hmake : fs.Goes (.makeDirectories parent) (.ok ()) fs := by
      apply Goes.of_answer
      rw [answer, ← hmade, hparents.makeParents]
      rfl
    rw [hwrite]
    exact ⟨_, _, yields_call_bind_of_ok hfill, .cons hmake (.cons hopen hcut),
      (hempty.overwrite _).read⟩

end TokenFile

/-! ### What readers get -/

namespace FileStore

variable {store : FileStore}

theorem read_of_content {content : Bytes} (h : fs.read store.path = .ok content) :
    store.read fs = if content = [] then .error .noData else .ok content := by
  unfold read
  rw [h]
  cases content <;> rfl

/-- Whoever reads between the calls of a write gets the old token until the file is opened, then
none, and then as much of the new one as has been written. A write that fails can leave any
beginning of the new token in the place of the old one. -/
theorem token_is_replaced_in_place {old : Bytes} (hsound : fs.Sound)
    (hold : store.read fs = .ok old) (new : Bytes) :
    (∀ events after, (TokenFile.write store.path new).run.Begins events → fs.Leads events after →
      ∃ content, TokenFile.Seen store.path old new events content ∧
        store.read after = if content = [] then .error .noData else .ok content) ∧
    (fs.HasParents store.path → ∀ count fault, ∃ events after,
      (TokenFile.write store.path new).run.Yields events (.error fault) ∧
        fs.Leads events after ∧
        store.read after =
          if new.take count = [] then .error .noData else .ok (new.take count)) := by
  have hread := (read_ok_iff.mp hold).1
  constructor
  · intro events after hbegins hleads
    obtain ⟨content, hseen, hafter⟩ := TokenFile.seen_of_write hsound hread hbegins hleads
    exact ⟨content, hseen, read_of_content hafter⟩
  · intro hparents count fault
    obtain ⟨events, after, hyields, hleads, hafter⟩ :=
      TokenFile.write_breaks_off hsound hread hparents new count fault
    exact ⟨events, after, hyields, hleads, read_of_content hafter⟩

namespace Sample

/-- A fresh store that has taken a token, with the files then. -/
def taken : Except Failure Unit × FileStore × FileSystem :=
  (FileStore.create "tok").write [1, 2] FileSystem.empty

def kept : FileStore := taken.2.1

def files : FileSystem := taken.2.2

theorem files_holds : files.Holds kept.path [1, 2] :=
  TokenFile.holds_of_write FileSystem.empty_sound (by rfl)

end Sample

theorem token_is_replaced_in_place_cut :
    Sample.files.Sound ∧ Sample.kept.read Sample.files = .ok [1, 2] ∧
      Sample.files.HasParents Sample.kept.path ∧
      ∃ events after,
        (TokenFile.write Sample.kept.path [3, 4]).run.Yields events
          (.error (.system .permission)) ∧
        Sample.files.Leads events after ∧ Sample.kept.read after = .ok [3] := by
  have hheld : Sample.kept.read Sample.files = .ok [1, 2] :=
    read_eq_ok Sample.files_holds.read (by simp)
  obtain ⟨_, hbreaks⟩ := token_is_replaced_in_place Sample.files_holds.sound hheld [3, 4]
  exact ⟨Sample.files_holds.sound, hheld, Sample.files_holds.parents,
    hbreaks Sample.files_holds.parents 1 (.system .permission)⟩

/-- A reader finds no token between two calls of a write, and there is still none if the write goes
no further. -/
theorem token_is_gone_between_calls :
    Sample.kept.read Sample.files = .ok [1, 2] ∧
      (∃ events after, (TokenFile.write Sample.kept.path [3, 4]).run.Begins events ∧
        Sample.files.Leads events after ∧ Sample.kept.read after = .error .noData) ∧
      ∃ events after fault,
        (TokenFile.write Sample.kept.path [3, 4]).run.Yields events (.error fault) ∧
        Sample.files.Leads events after ∧ Sample.kept.read after = .error .noData := by
  have hfill : TokenFile.write Sample.kept.path [3, 4] =
      TokenFile.fill Sample.kept.path [3, 4] := rfl
  let opened := (Sample.files.answer (.openTruncated Sample.kept.path ownerOnly)).2
  have hopen : Sample.files.Goes (.openTruncated Sample.kept.path ownerOnly) (.ok (0 : Nat)) opened :=
    Goes.of_answer (by rfl)
  have hrefused : opened.Goes (.overwrite 0 [3, 4]) (.error (.system .permission)) opened :=
    .refused _ _
  have hgone : Sample.kept.read opened = .error .noData := by rfl
  rw [hfill]
  refine ⟨read_eq_ok Sample.files_holds.read (by simp), ?_, ?_⟩
  · exact ⟨_, opened, .perform _ _ _ (.nil _), .cons hopen (.nil opened), hgone⟩
  · exact ⟨_, opened, .system .permission,
      TokenFile.yields_call_bind_of_ok (TokenFile.yields_call_bind_of_error _ _ _),
      .cons hopen (.cons hrefused (.nil opened)), hgone⟩

end FileStore

end WorkloadIdentity
