import WorkloadIdentity.Proofs.FileSystem.Replacement

/-!
Who may read a token while it is written. A file that a write makes is for its owner alone from the
start. A file that was there keeps its permissions until they are set, and that is the last call of
a write: by then the new token stands in it, open to all who could read the old one, and it stays so
if a call fails.
-/

namespace WorkloadIdentity

open FileSystem

variable {fs next after : FileSystem} {path : Path}

namespace FileSystem

/-- One more call. -/
theorem Leads.concat {call : FileCall} {answer : call.Answer} {events : List FileEvent}
    (h : fs.Leads events next) (hgoes : next.Goes call answer after) :
    fs.Leads (events ++ [⟨call, answer⟩]) after := by
  induction h with
  | nil fs => exact .cons hgoes (.nil after)
  | cons hfirst _ ih => exact .cons hfirst (ih hgoes)

/-! ### A file with its mode -/

/-- A path leads to an object, and this is the file. -/
structure Stands (fs : FileSystem) (path : Path) (object : Nat) (file : FileObject) : Prop where
  plain : Path.asksDirectory path = false
  located : fs.locate path = .ok (path.place, some (.file object))
  held : fs.object? object = some file

namespace Stands

variable {object : Nat} {file : FileObject} {content : Bytes} {mode : Nat}

theorem lookup (h : fs.Stands path object file) :
    fs.lookup path = .ok (path.place, .file object) := by
  have hlookup := lookup_of_locate_file h.located
  rwa [h.plain] at hlookup

theorem file? (h : fs.Stands path object file) : fs.file? path = some file := by
  unfold FileSystem.file?
  rw [h.lookup]
  exact h.held

theorem of_file? (hfile : fs.file? path = some file) : ∃ object, fs.Stands path object file := by
  unfold FileSystem.file? at hfile
  split at hfile
  · next found object hlookup =>
      have hlocate := lookup_ok hlookup
      obtain ⟨rfl, _⟩ := locate_ok hlocate
      rw [lookup_of_locate_file hlocate] at hlookup
      have hasks : Path.asksDirectory path = false := by
        cases hasks : Path.asksDirectory path with
        | false => rfl
        | true => simp [hasks] at hlookup
      exact ⟨object, hasks, hlocate, hfile⟩
  · cases hfile

/-- What is opened for writing is empty, and a file that was there keeps its permissions. -/
theorem of_openTruncated (hsound : fs.Sound)
    (h : fs.openTruncated path mode = .ok (object, next)) :
    next.Stands path object ⟨[], ((fs.file? path).map (·.mode)).getD mode⟩ := by
  have hplain := (openTruncated_ok h).1
  refine ⟨hplain, openTruncated_locate h, ?_⟩
  obtain ⟨_, ⟨hlocate, _⟩ | ⟨hlocate, rfl, rfl⟩⟩ := openTruncated_ok h
  · have hrange : object < fs.objects.length :=
      hsound.inRange path.place object (locate_ok hlocate).2.symm
    obtain ⟨old, hold⟩ : ∃ old, fs.object? object = some old :=
      ⟨fs.objects[object], List.getElem?_eq_getElem hrange⟩
    have hopened := openTruncated_of_file hlocate hplain hold mode
    rw [h] at hopened
    cases hopened
    have hfile : fs.file? path = some old := Stands.file? ⟨hplain, hlocate, hold⟩
    rw [hfile]
    exact object?_setObject_self hrange _
  · have hnone : fs.file? path = none := by
      unfold FileSystem.file?
      rw [lookup_of_locate_none hlocate]
    rw [hnone, object?_setNode]
    simp [object?]

theorem overwrite (h : fs.Stands path object ⟨[], mode⟩) (data : Bytes) :
    (fs.overwrite object data).Stands path object ⟨data, mode⟩ := by
  refine ⟨h.plain, (locate_overwrite fs object data path).trans h.located, ?_⟩
  simpa using object?_overwrite h.held data

theorem sync {answer : (FileCall.sync object).Answer} (h : fs.Stands path object file)
    (hgoes : fs.Goes (.sync object) answer next) : next.Stands path object file := by
  cases hgoes with
  | answered => exact h
  | refused => exact h

theorem answer_setMode (h : fs.Stands path object file) (mode : Nat) :
    fs.answer (.setMode path mode) = (.ok (), fs.setObject object { file with mode }) := by
  have hset : fs.setMode path mode = .ok (fs.setObject object { file with mode }) :=
    setMode_of_lookup h.lookup h.held
  rw [answer, hset]
  rfl

theorem setMode_ok (h : fs.Stands path object file)
    (hgoes : fs.Goes (.setMode path mode) (.ok ()) next) :
    next.Stands path object { file with mode } := by
  have hanswer := hgoes.of_ok
  rw [h.answer_setMode] at hanswer
  cases hanswer
  have hrange : object < fs.objects.length := (List.getElem?_eq_some_iff.mp h.held).1
  exact ⟨h.plain, (locate_setObject fs object _ path).trans h.located,
    object?_setObject_self hrange _⟩

theorem setMode_error {fault : IoFault} (h : fs.Stands path object file)
    (hgoes : fs.Goes (.setMode path mode) (.error fault) next) :
    next.Stands path object file := by
  generalize hanswer : (Except.error fault : (FileCall.setMode path mode).Answer) = answer at hgoes
  cases hgoes with
  | answered =>
      rw [h.answer_setMode] at hanswer
      cases hanswer
  | refused => exact h

end Stands

end FileSystem

/-! ### The calls of a write -/

namespace TokenFile

variable {events : List FileEvent} {new : Bytes} {old : FileObject}

/-- The file has been opened, so from here on what is in it is of the new token. -/
def Opened (path : Path) (events : List FileEvent) : Prop :=
  ∃ object : Nat, ⟨.openTruncated path ownerOnly, .ok object⟩ ∈ events

/-- The permissions have been set. -/
def Tightened (path : Path) (events : List FileEvent) : Prop :=
  ⟨.setMode path ownerOnly, .ok ()⟩ ∈ events

/-- The file that a write opens is there already, once the directories have been made. -/
def Finds (fs : FileSystem) (path : Path) (old : FileObject) : Prop :=
  ∃ made, fs.makeParents path = .ok made ∧ made.file? path = some old

/-- The mode of the opened file: of its own once it has been set, and until then that of the file
that was found, if one was. -/
inductive ModeAfter (path : Path) (found : Option FileObject) (events : List FileEvent) : Nat → Prop
  | tightened : Tightened path events → ModeAfter path found events ownerOnly
  | made : found = none → ModeAfter path found events ownerOnly
  | kept (old : FileObject) : found = some old → ¬Tightened path events →
      ModeAfter path found events old.mode

theorem not_tightened_nil : ¬Tightened path [] := List.not_mem_nil

theorem not_tightened_cons {event : FileEvent} (heffect : event.effect ≠ .setMode path ownerOnly)
    (h : ¬Tightened path events) : ¬Tightened path (event :: events) := by
  intro htightened
  rcases List.mem_cons.mp htightened with hhead | htail
  · apply heffect
    rw [← hhead]
  · exact h htail

theorem modeAfter_untightened {found : Option FileObject} (h : ¬Tightened path events) :
    ModeAfter path found events ((found.map (·.mode)).getD ownerOnly) := by
  cases found with
  | none => exact .made rfl
  | some old => exact .kept old rfl h

theorem ModeAfter.cons {found : Option FileObject} {event : FileEvent} {mode : Nat}
    (heffect : event.effect ≠ .setMode path ownerOnly) (h : ModeAfter path found events mode) :
    ModeAfter path found (event :: events) mode := by
  cases h with
  | tightened hset => exact .tightened (List.mem_cons_of_mem _ hset)
  | made hfound => exact .made hfound
  | kept old hfound hset => exact .kept old hfound (not_tightened_cons heffect hset)

/-- The mode of the file changes once after the token has been written, when it is set. -/
theorem stands_of_written {object : Nat} {found : Option FileObject}
    (h : fs.Stands path object ⟨new, (found.map (·.mode)).getD ownerOnly⟩)
    (hbegins : (call (.sync object) >>= fun _ => call (.setMode path ownerOnly)).run.Begins events)
    (hleads : fs.Leads events after) :
    ∃ mode, after.Stands path object ⟨new, mode⟩ ∧ ModeAfter path found events mode := by
  have hsynced (answer : (FileCall.sync object).Answer) :
      ¬Tightened path [⟨.sync object, answer⟩] :=
    not_tightened_cons (by simp) not_tightened_nil
  rcases begins_call_bind hbegins with rfl | ⟨fault, rfl⟩ | ⟨_, rest, rfl, hmode⟩
  · rw [leads_nil hleads]
    exact ⟨_, h, modeAfter_untightened not_tightened_nil⟩
  · obtain ⟨synced, hsync, hrest⟩ := leads_cons hleads
    rw [leads_nil hrest]
    exact ⟨_, h.sync hsync, modeAfter_untightened (hsynced _)⟩
  · obtain ⟨synced, hsync, hrest⟩ := leads_cons hleads
    have hstays := h.sync hsync
    rcases begins_call hmode with rfl | ⟨answer, rfl⟩
    · rw [leads_nil hrest]
      exact ⟨_, hstays, modeAfter_untightened (hsynced _)⟩
    · obtain ⟨set, hset, hrest⟩ := leads_cons hrest
      rw [leads_nil hrest]
      cases answer with
      | ok given =>
          exact ⟨ownerOnly, hstays.setMode_ok hset,
            .tightened (List.mem_cons_of_mem _ List.mem_cons_self)⟩
      | error fault =>
          refine ⟨_, hstays.setMode_error hset, modeAfter_untightened ?_⟩
          intro htightened
          rcases List.mem_cons.mp htightened with hsame | hsame
          · cases hsame
          · cases List.mem_singleton.mp hsame

theorem stands_of_fill (hsound : fs.Sound) (hbegins : (fill path new).run.Begins events)
    (hleads : fs.Leads events after) (hopened : Opened path events) :
    ∃ object content mode, after.Stands path object ⟨content, mode⟩ ∧ content <+: new ∧
      ModeAfter path (fs.file? path) events mode := by
  rcases begins_call_bind hbegins with rfl | ⟨fault, rfl⟩ | ⟨object, rest, rfl, hfill⟩
  · obtain ⟨_, hmem⟩ := hopened
    cases hmem
  · obtain ⟨_, hmem⟩ := hopened
    cases List.mem_singleton.mp hmem
  · obtain ⟨opened, hopen, hrest⟩ := leads_cons hleads
    have hempty := Stands.of_openTruncated hsound hopen.openTruncated_ok
    have hfirst : ¬Tightened path [⟨.openTruncated path ownerOnly, .ok object⟩] :=
      not_tightened_cons (by simp) not_tightened_nil
    rcases begins_call_bind hfill with rfl | ⟨fault, rfl⟩ | ⟨_, rest, rfl, htail⟩
    · rw [leads_nil hrest]
      exact ⟨object, [], _, hempty, List.nil_prefix, modeAfter_untightened hfirst⟩
    · obtain ⟨written, hwrite, hrest⟩ := leads_cons hrest
      rw [leads_nil hrest]
      have hmode : ModeAfter path (fs.file? path) [⟨.openTruncated path ownerOnly, .ok object⟩,
          ⟨.overwrite object new, .error fault⟩] (((fs.file? path).map (·.mode)).getD ownerOnly) :=
        modeAfter_untightened
          (not_tightened_cons (by simp) (not_tightened_cons (by simp) not_tightened_nil))
      rcases hwrite.overwrite_error with rfl | ⟨count, rfl⟩
      · exact ⟨object, [], _, hempty, List.nil_prefix, hmode⟩
      · exact ⟨object, new.take count, _, hempty.overwrite _, List.take_prefix _ _, hmode⟩
    · obtain ⟨written, hwrite, hrest⟩ := leads_cons hrest
      cases hwrite.of_ok
      obtain ⟨mode, hstands, hmode⟩ := stands_of_written (hempty.overwrite new) htail hrest
      exact ⟨object, new, mode, hstands, List.prefix_refl _, (hmode.cons (by simp)).cons (by simp)⟩

theorem opened_of_directories {parent : Path} {answer : (FileCall.makeDirectories parent).Answer}
    (h : Opened path (⟨.makeDirectories parent, answer⟩ :: events)) : Opened path events := by
  obtain ⟨object, hmem⟩ := h
  rcases List.mem_cons.mp hmem with hdirectories | hmem
  · cases hdirectories
  · exact ⟨object, hmem⟩

/-- What is in the file after some calls of a write, once it has been opened: a beginning of the
new token, with the mode that those calls have left it. -/
theorem stands_of_write (hsound : fs.Sound) (hbegins : (write path new).run.Begins events)
    (hleads : fs.Leads events after) (hopened : Opened path events) :
    ∃ made object content mode, fs.makeParents path = .ok made ∧
      after.Stands path object ⟨content, mode⟩ ∧ content <+: new ∧
      ModeAfter path (made.file? path) events mode := by
  rcases write_cases path new with ⟨hwrite, hmade⟩ | ⟨parent, hwrite, hmade⟩
  · rw [hwrite] at hbegins
    obtain ⟨object, content, mode, hstays⟩ := stands_of_fill hsound hbegins hleads hopened
    exact ⟨fs, object, content, mode, hmade fs, hstays⟩
  · rw [hwrite] at hbegins
    rcases begins_call_bind hbegins with rfl | ⟨fault, rfl⟩ | ⟨_, rest, rfl, hfill⟩
    · obtain ⟨_, hmem⟩ := hopened
      cases hmem
    · obtain ⟨_, hmem⟩ := opened_of_directories hopened
      cases hmem
    · obtain ⟨made, hmake, hrest⟩ := leads_cons hleads
      have hmakes : fs.makeDirectories parent = .ok made := change_ok hmake.of_ok
      have hadds := makeDirectories_adds hmakes
      obtain ⟨object, content, mode, hstands, hcontent, hmode⟩ :=
        stands_of_fill (hadds.sound hsound) hfill hrest (opened_of_directories hopened)
      exact ⟨made, object, content, mode, (hmade fs).trans hmakes, hstands, hcontent,
        hmode.cons (by simp)⟩

/-! ### Writes that end -/

/-- A write makes these calls, ends with this answer and leaves the files so. -/
def Ends (fs : FileSystem) (path : Path) (new : Bytes) (events : List FileEvent)
    (answer : Except IoFault Unit) (after : FileSystem) : Prop :=
  (write path new).run.Yields events answer ∧ fs.Leads events after

/-- The call that sets the permissions. -/
def setsMode (path : Path) (answer : Except IoFault Unit) : FileEvent :=
  ⟨.setMode path ownerOnly, answer⟩

/-- Where a write finds a file, it comes to its last call with the whole token in the file under the
permissions that were found, and ends as this call does. -/
theorem write_comes_to_setMode (hsound : fs.Sound) (hfinds : Finds fs path old) (new : Bytes) :
    ∃ events before object, fs.Leads events before ∧ Opened path events ∧
      before.Stands path object ⟨new, old.mode⟩ ∧
      ∀ answer, (write path new).run.Yields (events ++ [setsMode path answer]) answer := by
  obtain ⟨made, hmade, hfile⟩ := hfinds
  obtain ⟨object, hstands⟩ := Stands.of_file? hfile
  have hadds := makeParents_adds hmade
  have hopened := openTruncated_of_file hstands.located hstands.plain hstands.held ownerOnly
  generalize made.setObject object ⟨[], old.mode⟩ = opened at hopened
  have hempty := Stands.of_openTruncated (hadds.sound hsound) hopened
  rw [hfile] at hempty
  have hwritten := hempty.overwrite new
  have hopen : made.Goes (.openTruncated path ownerOnly) (.ok object) opened := by
    apply Goes.of_answer
    rw [answer, hopened]
  have hwrite : opened.Goes (.overwrite object new) (.ok ()) (opened.overwrite object new) :=
    Goes.of_answer rfl
  have hsync : (opened.overwrite object new).Goes (.sync object) (.ok ()) _ := Goes.of_answer rfl
  have hleads := Leads.cons hopen (.cons hwrite (.cons hsync (.nil _)))
  have hfill (last : Except IoFault Unit) : (fill path new).run.Yields
      [⟨.openTruncated path ownerOnly, .ok object⟩, ⟨.overwrite object new, .ok ()⟩,
        ⟨.sync object, .ok ()⟩, setsMode path last] last := by
    have hlast : (call (.setMode path ownerOnly)).run.Yields [setsMode path last] last :=
      Program.Yields.perform _ _ _ (.done _)
    exact yields_call_bind_of_ok (yields_call_bind_of_ok (yields_call_bind_of_ok hlast))
  rcases write_cases path new with ⟨hprogram, hnone⟩ | ⟨parent, hprogram, hparent⟩
  · obtain rfl : fs = made := Except.ok.inj ((hnone fs).symm.trans hmade)
    rw [hprogram]
    exact ⟨_, _, object, hleads, ⟨object, List.mem_cons_self⟩, hwritten, hfill⟩
  · have hmake : fs.Goes (.makeDirectories parent) (.ok ()) made := by
      apply Goes.of_answer
      rw [answer, ← hparent, hmade]
      rfl
    rw [hprogram]
    refine ⟨_, _, object, .cons hmake hleads, ⟨object, ?_⟩, hwritten, ?_⟩
    · exact List.mem_cons_of_mem _ List.mem_cons_self
    · intro last
      exact yields_call_bind_of_ok (hfill last)

/-- What ends well went on after its first call, which did what it should. -/
theorem run_of_yields_ok {α : Type} {c : FileCall} {f : c.Result → ExceptT IoFault FileProgram α}
    {result : α} (h : (call c >>= f).run.Yields events (.ok result))
    (hleads : fs.Leads events after) :
    ∃ given next rest, (f given).run.Yields rest (.ok result) ∧ next.Leads rest after ∧
      (call c >>= f).run.run FileSystem.answer fs = (f given).run.run FileSystem.answer next := by
  have hperform : (Program.perform c fun answer => ExceptT.bindCont f answer).Yields events
      (.ok result) := h
  obtain ⟨answer, rest, rfl, hrest⟩ := Program.yields_perform_iff.mp hperform
  cases answer with
  | error fault => cases (Program.yields_done_iff.mp hrest).2
  | ok given =>
      obtain ⟨next, hgoes, hleads⟩ := leads_cons hleads
      exact ⟨given, next, rest, hrest, hleads, run_call_bind_of_ok hgoes.of_ok⟩

theorem run_fill_of_yields (h : (fill path new).run.Yields events (.ok ()))
    (hleads : fs.Leads events after) :
    (fill path new).run.run FileSystem.answer fs = (.ok (), after) := by
  obtain ⟨object, _, _, hwrite, hleads, hopen⟩ := run_of_yields_ok h hleads
  obtain ⟨_, _, _, hsync, hleads, hwritten⟩ := run_of_yields_ok hwrite hleads
  obtain ⟨_, _, last, hlast, hleads, hsynced⟩ := run_of_yields_ok hsync hleads
  have hperform : (Program.perform (FileCall.setMode path ownerOnly) Program.done).Yields last
      (Except.ok ()) := hlast
  obtain ⟨answer, rest, rfl, hrest⟩ := Program.yields_perform_iff.mp hperform
  obtain ⟨rfl, hanswer⟩ := Program.yields_done_iff.mp hrest
  obtain ⟨set, hgoes, hleads⟩ := leads_cons hleads
  rw [← hanswer] at hgoes
  rw [leads_nil hleads]
  exact hopen.trans (hwritten.trans (hsynced.trans hgoes.of_ok))

/-- A write that ends well leaves the token for its owner alone. -/
theorem file?_of_yields (hsound : fs.Sound) (h : (write path new).run.Yields events (.ok ()))
    (hleads : fs.Leads events after) : after.file? path = some ⟨new, ownerOnly⟩ := by
  have hrun : (write path new).run.run FileSystem.answer fs = (.ok (), after) := by
    rcases write_cases path new with ⟨hwrite, _⟩ | ⟨parent, hwrite, _⟩
    · rw [hwrite] at h ⊢
      exact run_fill_of_yields h hleads
    · rw [hwrite] at h ⊢
      obtain ⟨_, _, _, hfill, hleads, hmade⟩ := run_of_yields_ok h hleads
      rw [hmade]
      exact run_fill_of_yields hfill hleads
  exact (holds_of_write hsound hrun).file?

end TokenFile

/-! ### Whom the token is shown to -/

namespace FileStore

/-- Between the calls of a write, and after one that fails, what has come into the file of the new
token is for its owner alone if and only if the write finds no file or one of that mode. Otherwise
it comes to a point where the whole token stands in the file with the permissions that it found, and
there it stays if they cannot be set. A write that ends well has set them. -/
theorem new_token_is_for_owner_alone_iff (store : FileStore) {new : Bytes} (hsound : fs.Sound)
    (hnew : new ≠ []) :
    ((∀ events after file, (TokenFile.write store.path new).run.Begins events →
        fs.Leads events after → TokenFile.Opened store.path events →
        after.file? store.path = some file → file.content ≠ [] → file.mode = ownerOnly) ↔
      ∀ old, TokenFile.Finds fs store.path old → old.mode = ownerOnly) ∧
    (∀ old, TokenFile.Finds fs store.path old → ∃ events before,
      fs.Leads events before ∧ before.file? store.path = some ⟨new, old.mode⟩ ∧
      (∃ after, TokenFile.Ends fs store.path new
        (events ++ [TokenFile.setsMode store.path (.ok ())]) (.ok ()) after) ∧
      ∀ fault, TokenFile.Ends fs store.path new
        (events ++ [TokenFile.setsMode store.path (.error fault)]) (.error fault) before) ∧
    ∀ events after, TokenFile.Ends fs store.path new events (.ok ()) after →
      after.file? store.path = some ⟨new, ownerOnly⟩ := by
  refine ⟨⟨?_, ?_⟩, ?_, ?_⟩
  · intro hguarded old hfinds
    obtain ⟨events, before, object, hleads, hopened, hstands, hyields⟩ :=
      TokenFile.write_comes_to_setMode hsound hfinds new
    have hbegins := (hyields (.ok ())).begins.of_append
    exact hguarded events before ⟨new, old.mode⟩ hbegins hleads hopened hstands.file? hnew
  · intro hfound events after file hbegins hleads hopened hfile _
    obtain ⟨made, object, content, mode, hmade, hstands, _, hmode⟩ :=
      TokenFile.stands_of_write hsound hbegins hleads hopened
    obtain rfl : ⟨content, mode⟩ = file := Option.some.inj (hstands.file?.symm.trans hfile)
    cases hmode with
    | tightened => rfl
    | made => rfl
    | kept old hold _ => exact hfound old ⟨made, hmade, hold⟩
  · intro old hfinds
    obtain ⟨events, before, object, hleads, _, hstands, hyields⟩ :=
      TokenFile.write_comes_to_setMode hsound hfinds new
    have hset := hleads.concat (Goes.of_answer (hstands.answer_setMode ownerOnly))
    refine ⟨events, before, hleads, hstands.file?, ⟨_, hyields _, hset⟩, ?_⟩
    intro fault
    exact ⟨hyields _, hleads.concat (.refused _ fault)⟩
  · rintro events after ⟨hyields, hleads⟩
    exact TokenFile.file?_of_yields hsound hyields hleads

namespace Shared

/-- A token's file that all may read. -/
def files : FileSystem := ((FileSystem.empty.put "tok" [1, 2] 0o644).toOption).getD .empty

def store : FileStore := .create "tok"

theorem files_sound : files.Sound := by
  have hput : FileSystem.empty.put "tok" [1, 2] 0o644 = .ok files := by rfl
  exact put_sound FileSystem.empty_sound hput

theorem finds_file : TokenFile.Finds files store.path ⟨[1, 2], 0o644⟩ :=
  ⟨files, by rfl, by rfl⟩

end Shared

theorem new_token_is_for_owner_alone_iff_shared :
    Shared.files.Sound ∧ ([3, 4, 5] : Bytes) ≠ [] ∧ ∃ events before,
      Shared.files.Leads events before ∧
      before.file? Shared.store.path = some ⟨[3, 4, 5], 0o644⟩ ∧
      (∃ after, TokenFile.Ends Shared.files Shared.store.path [3, 4, 5]
        (events ++ [TokenFile.setsMode Shared.store.path (.ok ())]) (.ok ()) after) ∧
      ∀ fault, TokenFile.Ends Shared.files Shared.store.path [3, 4, 5]
        (events ++ [TokenFile.setsMode Shared.store.path (.error fault)]) (.error fault)
        before := by
  have hnew : ([3, 4, 5] : Bytes) ≠ [] := by simp
  obtain ⟨_, hexposed, _⟩ := new_token_is_for_owner_alone_iff Shared.store Shared.files_sound hnew
  exact ⟨Shared.files_sound, hnew, hexposed _ Shared.finds_file⟩

/-- All may read the new token while a write that ends well is under way, and when one is through
whose last call failed. -/
theorem new_token_is_shown_to_others :
    (∃ events last before after,
      Shared.files.Leads events before ∧
        before.file? Shared.store.path = some ⟨[3, 4, 5], 0o644⟩ ∧
        TokenFile.Ends Shared.files Shared.store.path [3, 4, 5] (events ++ [last]) (.ok ()) after) ∧
      ∃ events fault after,
        TokenFile.Ends Shared.files Shared.store.path [3, 4, 5] events (.error fault) after ∧
        after.file? Shared.store.path = some ⟨[3, 4, 5], 0o644⟩ := by
  obtain ⟨events, before, object, hleads, _, hstands, hyields⟩ :=
    TokenFile.write_comes_to_setMode Shared.files_sound Shared.finds_file [3, 4, 5]
  have hset := Goes.of_answer (hstands.answer_setMode ownerOnly)
  have hrefused : before.Goes (.setMode Shared.store.path ownerOnly) _ before :=
    .refused _ (.system .permission)
  exact ⟨⟨events, _, before, _, hleads, hstands.file?, hyields _, hleads.concat hset⟩,
    _, _, before, ⟨hyields _, hleads.concat hrefused⟩, hstands.file?⟩

end FileStore

end WorkloadIdentity
