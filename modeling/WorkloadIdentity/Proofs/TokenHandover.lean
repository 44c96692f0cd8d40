import WorkloadIdentity.Proofs.Certificate.Authentication
import WorkloadIdentity.Proofs.Exchange.Handover
import WorkloadIdentity.Proofs.Exchange.Run

/-!
The access token through one authentication. Until the token is handed over nothing is seen of the
authentication by a reader of the store, provided that the token's file is apart from the files of
others and from the certificate. So a reader finds the new token after a success, and otherwise
what was there before, wherever the authentication fails or is dropped.
-/

namespace WorkloadIdentity

open FileSystem
open Exchange (Event)

namespace World

variable {w after : World} {place : Place}

/-! ### What others write -/

/-- The files of others are apart from the file at a place. -/
structure Apart (place : Place) (w : World) : Prop where
  sound : w.files.Sound
  arrivals : ∀ arrival ∈ w.arrivals, place ≠ arrival.path.place
  replies : ∀ reply ∈ w.replies, ∀ file ∈ reply.files, place ≠ file.1.place

/-- Between two worlds the file at a place was not touched, nor will it be. -/
structure Spared (place : Place) (w after : World) : Prop where
  apart : after.Apart place
  beside : Beside place w.files after.files

theorem Spared.trans {later : World} (h : Spared place w after)
    (hlater : Spared place after later) : Spared place w later :=
  ⟨hlater.apart, h.beside.trans hlater.beside⟩

theorem writeForeign_sound {fs : FileSystem} (hsound : fs.Sound) (path : Path)
    (content : Bytes) : (writeForeign fs path content).Sound := by
  unfold writeForeign
  cases hput : fs.put path content foreignMode with
  | error fault => exact hsound
  | ok grown => exact put_sound hsound hput

theorem writeForeign_beside {fs : FileSystem} {path : Path} (hsound : fs.Sound)
    (hplace : place ≠ path.place) (content : Bytes) :
    Beside place fs (writeForeign fs path content) := by
  unfold writeForeign
  cases hput : fs.put path content foreignMode with
  | error fault => exact .refl place fs
  | ok grown => exact put_beside hsound hplace hput

/-- The files of others, written one after the other. -/
theorem writeForeign_all_spares {ι : Type} (path : ι → Path) (content : ι → Bytes)
    {items : List ι} (hitems : ∀ item ∈ items, place ≠ (path item).place) {fs : FileSystem}
    (hsound : fs.Sound) :
    (items.foldl (fun files item => writeForeign files (path item) (content item)) fs).Sound ∧
      Beside place fs
        (items.foldl (fun files item => writeForeign files (path item) (content item)) fs) := by
  induction items generalizing fs with
  | nil => exact ⟨hsound, .refl place fs⟩
  | cons item rest ih =>
      have hfirst := writeForeign_beside hsound (hitems item (by simp)) (content item)
      obtain ⟨hlater, hrest⟩ := ih (fun later member => hitems later (by simp [member]))
        (writeForeign_sound hsound (path item) (content item))
      exact ⟨hlater, hfirst.trans hrest⟩

theorem advance_spares (h : w.Apart place) (time : Instant) :
    Spared place w (w.advance time) := by
  have hdue : ∀ arrival ∈ (w.arrivals.partition (·.time ≤ time)).1,
      place ≠ arrival.path.place := by
    intro arrival member
    rw [List.partition_eq_filter_filter] at member
    exact h.arrivals arrival (List.mem_filter.mp member).1
  obtain ⟨hsound, hbeside⟩ := writeForeign_all_spares Arrival.path Arrival.content hdue h.sound
  refine ⟨⟨hsound, ?_, h.replies⟩, hbeside⟩
  intro arrival member
  have hlater : arrival ∈ (w.arrivals.partition (·.time ≤ time)).2 := member
  rw [List.partition_eq_filter_filter] at hlater
  exact h.arrivals arrival (List.mem_filter.mp hlater).1

theorem send_spares (h : w.Apart place) (client : Client) (request : Request) :
    Spared place w (w.send client request).2 := by
  cases hreplies : w.replies with
  | nil =>
      unfold send
      rw [hreplies]
      exact ⟨h, .refl place w.files⟩
  | cons reply rest =>
      have hrest : Apart place { w with replies := rest } := by
        refine ⟨h.sound, h.arrivals, ?_⟩
        intro later member
        exact h.replies later (by simp [hreplies, member])
      unfold send
      rw [hreplies]
      dsimp only
      split
      · have hlate := advance_spares hrest (w.clock.after client.timeout)
        exact ⟨hlate.apart, hlate.beside⟩
      · have hreply := h.replies reply (by simp [hreplies])
        have hadvanced := advance_spares hrest (w.clock.after reply.took)
        obtain ⟨hsound, hbeside⟩ := writeForeign_all_spares Prod.fst Prod.snd hreply
          hadvanced.apart.sound
        exact ⟨⟨hsound, hadvanced.apart.arrivals, hadvanced.apart.replies⟩,
          hadvanced.beside.trans hbeside⟩

/-! ### Effects -/

theorem answer_spares {effect : Effect} (h : w.Apart place) (heffect : effect.Spares place) :
    Spared place w (w.answer effect).2 := by
  cases effect with
  | now => exact ⟨h, .refl place w.files⟩
  | keep session => exact ⟨⟨h.sound, h.arrivals, h.replies⟩, .refl place w.files⟩
  | sleep d => exact advance_spares h _
  | send client request => exact send_spares h client request
  | store token => exact heffect.elim
  | file call =>
      have hsound : (w.files.answer call).2.Sound := answer_sound h.sound call
      refine ⟨⟨hsound, h.arrivals, h.replies⟩, ?_⟩
      cases call with
      | read path => exact .refl place w.files
      | remove path =>
          show Beside place w.files (w.files.change (w.files.remove path)).2
          cases hremoved : w.files.remove path with
          | error fault => exact .refl place w.files
          | ok grown => exact remove_beside heffect hremoved
      | _ => exact heffect.elim

theorem answer_store {effect : Effect} (h : effect.isStore = false) :
    (w.answer effect).2.store = w.store := by
  cases effect with
  | store token => cases h
  | send client request =>
      show (w.send client request).2.store = w.store
      unfold send
      split
      · rfl
      · dsimp only
        split <;> rfl
  | _ => rfl

theorem afterEvents_spares {events : List Event} (h : w.Apart place)
    (hevents : ∀ event ∈ events, event.effect.Spares place) :
    Spared place w (w.afterEvents events) := by
  induction events generalizing w with
  | nil => exact ⟨h, .refl place w.files⟩
  | cons event rest ih =>
      have hfirst := answer_spares h (hevents event (by simp))
      exact hfirst.trans (ih hfirst.apart fun later member => hevents later (by simp [member]))

theorem afterEvents_store {events : List Event}
    (hevents : ∀ event ∈ events, event.effect.isStore = false) :
    (w.afterEvents events).store = w.store := by
  induction events generalizing w with
  | nil => rfl
  | cons event rest ih =>
      rw [afterEvents_cons, ih fun later member => hevents later (by simp [member])]
      exact answer_store (hevents event (by simp))

/-! ### The token -/

/-- Every token could be handed over. -/
def Accepts (w : World) : Prop := w.store.Accepts w.files

/-- The token's file, where there is one, is apart from the files of others, and found even if its
path goes up and down again. -/
def Guarded (w : World) : Prop :=
  ∀ path, w.store.path? = some path →
    (".." ∈ Path.names path → w.files.FindsFile path) ∧ w.Apart path.place

/-- Events by which no token is handed over, and no file of the store touched. -/
def Quiet (w : World) (events : List Event) : Prop :=
  ∀ event ∈ events, event.effect.isStore = false ∧
    ∀ path, w.store.path? = some path → event.effect.Spares path.place

theorem Guarded.findsFile {path : Path} (h : w.Guarded) (haccepts : w.Accepts)
    (hpath : w.store.path? = some path) : w.files.FindsFile path := by
  by_cases hup : ".." ∈ Path.names path
  · exact (h path hpath).1 hup
  · exact haccepts.findsFile hpath (h path hpath).2.sound hup

theorem Guarded.token_of_beside (h : w.Guarded) (hstore : after.store = w.store)
    (hbeside : ∀ path, w.store.path? = some path → Beside path.place w.files after.files)
    (hbefore : w.Accepts) (hafter : after.Accepts) : after.token = w.token := by
  unfold Accepts at hafter
  rw [hstore] at hafter
  unfold token
  rw [hstore]
  refine TokenStore.read_beside ?_ hbefore hafter
  intro path hpath
  exact ⟨h.findsFile hbefore hpath, hbeside path hpath⟩

theorem Guarded.spared {events : List Event} {path : Path} (h : w.Guarded)
    (hquiet : w.Quiet events) (hpath : w.store.path? = some path) :
    Spared path.place w (w.afterEvents events) :=
  afterEvents_spares (h path hpath).2 fun event member => (hquiet event member).2 path hpath

theorem Quiet.store {events : List Event} (h : w.Quiet events) :
    (w.afterEvents events).store = w.store :=
  afterEvents_store fun event member => (h event member).1

theorem token_after_quiet {events : List Event} (hguarded : w.Guarded)
    (hquiet : w.Quiet events) (hbefore : w.Accepts) (hafter : (w.afterEvents events).Accepts) :
    (w.afterEvents events).token = w.token := by
  refine hguarded.token_of_beside hquiet.store ?_ hbefore hafter
  intro path hpath
  exact (hguarded.spared hquiet hpath).beside

/-- The same when time goes on after the events, as it does for who waits to give up. -/
theorem token_after_waiting {events : List Event} {time : Instant} {replies : List Reply}
    {answered : List (Client × Request)} (hguarded : w.Guarded) (hquiet : w.Quiet events)
    (hbefore : w.Accepts)
    (hafter : Accepts { (w.afterEvents events).advance time with replies, answered }) :
    token { (w.afterEvents events).advance time with replies, answered } = w.token := by
  refine hguarded.token_of_beside hquiet.store ?_ hbefore hafter
  intro path hpath
  have hevents := hguarded.spared hquiet hpath
  exact hevents.beside.trans (advance_spares hevents.apart time).beside

end World

namespace Authenticator

variable {a : Authenticator} {w : World}

/-- The token's file is not the one that an authentication removes. -/
def SparesToken (a : Authenticator) (w : World) : Prop :=
  ∀ path removed, w.store.path? = some path → a.removed? = some removed →
    path.place ≠ removed.place

/-- The store of a world serves an authentication there: the token's file is apart from the files
of others and from the one that the authentication removes, and wherever the authentication is
left before it hands a token over, any token could be. -/
structure ServedIn (a : Authenticator) (w : World) : Prop where
  guarded : w.Guarded
  spared : a.SparesToken w
  accepts : ∀ before rest, (a.authenticate w.session).eventsIn w = before ++ rest →
    (∀ event ∈ before, event.effect.isStore = false) → (w.afterEvents before).Accepts
  acceptsDropped : ∀ limit < ((a.authenticate w.session).run w).2.clock,
    (Exchange.droppedAt limit (a.authenticate w.session) w).Accepts

theorem authenticate_handover_in (a : Authenticator) (w : World) :
    Handover ((a.authenticate w.session).eventsIn w) ((a.authenticate w.session).run w).1 := by
  refine authenticate_handover (Exchange.yields_eventsIn _ w) ?_
  intro token failure member
  obtain ⟨before, rest, hevents⟩ := List.append_of_mem member
  have hanswer := Program.answer_of_trace World.answer hevents
  exact TokenStore.not_expired_of_write hanswer.symm

theorem SparesToken.quiet (h : a.SparesToken w) {before rest : List Event}
    (hevents : (a.authenticate w.session).eventsIn w = before ++ rest)
    (hstore : ∀ event ∈ before, event.effect.isStore = false) : w.Quiet before := by
  have hbegins : (a.authenticate w.session).Begins (before ++ rest) := by
    rw [← hevents]
    exact (Exchange.yields_eventsIn _ w).begins
  intro event member
  refine ⟨hstore event member, ?_⟩
  intro path hpath
  have hfitting : (a.authenticate w.session).Only (Effect.IsFitting path.place) :=
    authenticate_fitting (fun removed hremoved => h path removed hpath hremoved) w.session
  rcases hfitting.of_begins hbegins.of_append event member with hhanded | hspares
  · rw [hstore event member] at hhanded
    cases hhanded
  · exact hspares

/-- An authentication that is dropped before it ends has handed no token over. -/
theorem droppedAt_before (a : Authenticator) (w : World) {limit : Instant}
    (hlimit : limit < ((a.authenticate w.session).run w).2.clock) :
    ∃ before rest replies answered, (a.authenticate w.session).eventsIn w = before ++ rest ∧
      (∀ event ∈ before, event.effect.isStore = false) ∧
      Exchange.droppedAt limit (a.authenticate w.session) w =
        { (w.afterEvents before).advance limit with replies, answered } := by
  obtain ⟨before, rest, replies, answered, hevents, hdropped, hended⟩ :=
    Exchange.droppedAt_cases limit (a.authenticate w.session) w
  refine ⟨before, rest, replies, answered, hevents, ?_, hdropped⟩
  by_cases hrest : rest = []
  · rcases hended hrest with hnone | hclock
    · rw [hnone] at hevents
      simp [(List.append_eq_nil_iff.mp hevents.symm).1]
    · exact (Nat.not_lt.mpr hclock hlimit).elim
  · have hhandover := authenticate_handover_in a w
    rw [hevents] at hhandover
    exact hhandover.stores_last hrest

/-- It is enough that any token can be written, whatever happens beside the token's file. -/
theorem ServedIn.of_accepts (hguarded : w.Guarded) (hspared : a.SparesToken w)
    (haccepts : ∀ grown, (∀ path, w.store.path? = some path → Beside path.place w.files grown) →
      w.store.Accepts grown) : a.ServedIn w where
  guarded := hguarded
  spared := hspared
  accepts before rest hevents hstore := by
    have hquiet := hspared.quiet hevents hstore
    unfold World.Accepts
    rw [hquiet.store]
    apply haccepts
    intro path hpath
    exact (hguarded.spared hquiet hpath).beside
  acceptsDropped limit hlimit := by
    obtain ⟨before, rest, replies, answered, hevents, hstore, hdropped⟩ :=
      droppedAt_before a w hlimit
    have hquiet := hspared.quiet hevents hstore
    rw [hdropped]
    show (w.afterEvents before).store.Accepts ((w.afterEvents before).advance limit).files
    rw [hquiet.store]
    apply haccepts
    intro path hpath
    have hbefore := hguarded.spared hquiet hpath
    exact hbefore.beside.trans (World.advance_spares hbefore.apart limit).beside

/-- A store in memory serves every authentication. -/
theorem ServedIn.of_memory {store : MemoryStore} (hstore : w.store = .memory store) :
    a.ServedIn w := by
  have hnone (path : Path) : w.store.path? ≠ some path := by
    rw [hstore]
    exact nofun
  refine .of_accepts (fun path hpath => (hnone path hpath).elim)
    (fun path _ hpath => (hnone path hpath).elim) ?_
  intro grown _
  rw [hstore]
  exact TokenStore.memory_accepts store grown

/-- So does a store in a file of the working directory that is there already. -/
theorem ServedIn.of_file {store : FileStore} {object : Nat} (hstore : w.store = .file store)
    (hlone : Path.parent? store.path = some "") (hasks : Path.asksDirectory store.path = false)
    (hlocate : w.files.locate store.path = .ok (store.path.place, some (.file object)))
    (hapart : w.Apart store.path.place)
    (hremoved : ∀ removed, a.removed? = some removed → store.path.place ≠ removed.place) :
    a.ServedIn w := by
  have hpath {path : Path} (h : w.store.path? = some path) : store.path = path := by
    rw [hstore] at h
    exact Option.some.inj h
  refine .of_accepts ?_ ?_ ?_
  · intro path h
    obtain rfl := hpath h
    refine ⟨fun _ other hother => ?_, hapart⟩
    have hsame := (locate_ok hlocate).2
    rw [hother] at hsame
    rw [hlocate, hsame]
  · intro path removed h
    obtain rfl := hpath h
    exact hremoved removed
  · intro grown hbeside
    have hplace : Beside store.path.place w.files grown := hbeside store.path (by rw [hstore]; rfl)
    have hstays : grown.locate store.path = .ok (store.path.place, some (.file object)) := by
      rw [locate_of_directories hplace.directory hlocate,
        (hplace.file object).mpr (locate_ok hlocate).2.symm]
    rw [hstore]
    exact TokenStore.file_accepts hlone hasks hstays

/-- Whoever drops an authentication before its last effect sees nothing of it in the store. -/
theorem ServedIn.token_before (h : a.ServedIn w) {before rest : List Event}
    (hevents : (a.authenticate w.session).eventsIn w = before ++ rest)
    (hquiet : ∀ event ∈ before, event.effect.isStore = false) :
    (w.afterEvents before).token = w.token :=
  World.token_after_quiet h.guarded (h.spared.quiet hevents hquiet) (h.accepts [] _ rfl (by simp))
    (h.accepts before rest hevents hquiet)

/-- The world right before a token is handed over is as good as the first one. -/
theorem ServedIn.before_store (h : a.ServedIn w) {front : List Event} {content : Bytes}
    {stored : Except Failure Unit}
    (hevents : (a.authenticate w.session).eventsIn w = front ++ [⟨.store content, stored⟩]) :
    (w.afterEvents front).token = w.token ∧ (w.afterEvents front).Accepts ∧
      ∀ path, (w.afterEvents front).store.path? = some path →
        (w.afterEvents front).files.Sound := by
  have hhandover := authenticate_handover_in a w
  rw [hevents] at hhandover
  have hquiet := hhandover.stores_last (by simp)
  have hfront := h.spared.quiet hevents hquiet
  refine ⟨h.token_before hevents hquiet, h.accepts front _ hevents hquiet, ?_⟩
  intro path hpath
  rw [hfront.store] at hpath
  exact (h.guarded.spared hfront hpath).apart.sound

private theorem run_of_store (a : Authenticator) (w : World) {front : List Event}
    {content : Bytes} {stored : Except Failure Unit}
    (hevents : (a.authenticate w.session).eventsIn w = front ++ [⟨.store content, stored⟩]) :
    stored = ((w.afterEvents front).store.write content (w.afterEvents front).files).1 ∧
      ((a.authenticate w.session).run w).2 =
        ((w.afterEvents front).answer (.store content)).2 := by
  refine ⟨Program.answer_of_trace World.answer hevents, ?_⟩
  rw [Exchange.run_world, hevents, World.afterEvents_append]
  rfl

theorem ServedIn.token_of_ok (h : a.ServedIn w)
    (hok : ((a.authenticate w.session).run w).1 = .ok ()) :
    ∃ before client request response token,
      (a.authenticate w.session).eventsIn w =
          before ++ [⟨.send client request, .ok response⟩, ⟨.store token, .ok ()⟩] ∧
        (∀ event ∈ before, event.effect.isStore = false) ∧ request.method = .post ∧
        response.isSuccess = true ∧ response.body = some token ∧ token ≠ [] ∧
        ((a.authenticate w.session).run w).2.token = .ok token := by
  have hhandover := authenticate_handover_in a w
  rw [hok] at hhandover
  generalize hevents : (a.authenticate w.session).eventsIn w = events at hhandover
  generalize houtcome : Outcome.ok () = outcome at hhandover
  cases hhandover with
  | never _ hfailed => exact (hfailed houtcome.symm).elim
  | @last before client request response content stored hbefore hpost hsuccess hbody =>
      cases stored with
      | error failure => cases houtcome
      | ok value =>
          have hlast : (a.authenticate w.session).eventsIn w =
              (before ++ [⟨.send client request, .ok response⟩]) ++ [⟨.store content, .ok ()⟩] := by
            simpa using hevents
          obtain ⟨hwritten, hworld⟩ := run_of_store a w hlast
          obtain ⟨_, _, hsound⟩ := h.before_store hlast
          obtain ⟨hcontent, hread⟩ := TokenStore.read_of_write hsound hwritten.symm
          refine ⟨before, client, request, response, content, rfl, hbefore, hpost, hsuccess, hbody,
            hcontent, ?_⟩
          rw [hworld]
          exact hread

/-- A store that accepts tokens refuses only one that is empty, and then stays as it is. -/
private theorem refused_store (h : a.ServedIn w) {front : List Event} {content : Bytes}
    {failure : Failure} (hevents : (a.authenticate w.session).eventsIn w =
      front ++ [⟨.store content, .error failure⟩]) :
    failure = .emptyPayload ∧ ((a.authenticate w.session).run w).2.token = w.token := by
  obtain ⟨hwritten, hworld⟩ := run_of_store a w hevents
  obtain ⟨htoken, haccepts, _⟩ := h.before_store hevents
  have hempty : content = [] := by
    cases content with
    | nil => rfl
    | cons byte rest =>
        rw [haccepts (byte :: rest) (by simp)] at hwritten
        cases hwritten
  subst hempty
  rw [TokenStore.write_empty] at hwritten
  refine ⟨Except.error.inj hwritten, ?_⟩
  have hsame :
      ((w.afterEvents front).answer (.store [])).2.token = (w.afterEvents front).token := by
    show TokenStore.read ((w.afterEvents front).store.write [] (w.afterEvents front).files).2.1
      ((w.afterEvents front).store.write [] (w.afterEvents front).files).2.2 = _
    rw [TokenStore.write_empty]
    rfl
  rw [hworld, hsame, htoken]

theorem ServedIn.token_of_failed (h : a.ServedIn w)
    (hfailed : ((a.authenticate w.session).run w).1 ≠ .ok ()) :
    ((a.authenticate w.session).run w).2.token = w.token := by
  have hhandover := authenticate_handover_in a w
  generalize hevents : (a.authenticate w.session).eventsIn w = events at hhandover
  generalize houtcome : ((a.authenticate w.session).run w).1 = outcome at hhandover hfailed
  cases hhandover with
  | never hnone _ =>
      have hwhole : (a.authenticate w.session).eventsIn w = events ++ [] := by simpa using hevents
      rw [Exchange.run_world, hevents]
      exact h.token_before hwhole hnone
  | @last before client request response content stored _ _ _ _ =>
      cases stored with
      | ok value => exact (hfailed rfl).elim
      | error failure =>
          have hlast : (a.authenticate w.session).eventsIn w =
              (before ++ [⟨.send client request, .ok response⟩]) ++
                [⟨.store content, .error failure⟩] := by
            simpa using hevents
          exact (refused_store h hlast).2

theorem failed_of_empty {stored : Except Failure Unit}
    (member : ⟨.store [], stored⟩ ∈ (a.authenticate w.session).eventsIn w) :
    ((a.authenticate w.session).run w).1 = .failed .emptyPayload := by
  have hhandover := authenticate_handover_in a w
  generalize hevents : (a.authenticate w.session).eventsIn w = events at hhandover member
  generalize ((a.authenticate w.session).run w).1 = outcome at hhandover ⊢
  cases hhandover with
  | never hnone _ => cases hnone _ member
  | @last before client request response content given hbefore _ _ _ =>
      have hlast : (a.authenticate w.session).eventsIn w =
          (before ++ [⟨.send client request, .ok response⟩]) ++ [⟨.store content, given⟩] := by
        simpa using hevents
      obtain ⟨hwritten, _⟩ := run_of_store a w hlast
      rcases List.mem_append.mp member with hfront | hback
      · cases hbefore _ hfront
      rcases List.mem_cons.mp hback with hsend | hstore
      · cases hsend
      · cases List.mem_singleton.mp hstore
        rw [hwritten, TokenStore.write_empty]
        rfl

/-- Nothing is seen of an authentication that was dropped between two of its effects. -/
theorem ServedIn.token_of_runFor (h : a.ServedIn w) {steps : Nat}
    (hsteps : steps < ((a.authenticate w.session).eventsIn w).length) :
    (Program.runFor World.answer steps (a.authenticate w.session) w).token = w.token := by
  have hevents : (a.authenticate w.session).eventsIn w =
      ((a.authenticate w.session).eventsIn w).take steps ++
        ((a.authenticate w.session).eventsIn w).drop steps :=
    (List.take_append_drop steps _).symm
  have hhandover := authenticate_handover_in a w
  rw [hevents] at hhandover
  have hquiet := hhandover.stores_last (by simpa using hsteps)
  rw [Exchange.runFor_eq_afterEvents]
  exact h.token_before hevents hquiet

theorem ServedIn.token_of_droppedAt (h : a.ServedIn w) {limit : Instant}
    (hlimit : limit < ((a.authenticate w.session).run w).2.clock) :
    (Exchange.droppedAt limit (a.authenticate w.session) w).token = w.token := by
  obtain ⟨before, rest, replies, answered, hevents, hquiet, hdropped⟩ :=
    droppedAt_before a w hlimit
  have haccepts := h.acceptsDropped limit hlimit
  rw [hdropped] at haccepts ⊢
  exact World.token_after_waiting h.guarded (h.spared.quiet hevents hquiet)
    (h.accepts [] _ rfl (by simp)) haccepts

/-- An authentication that succeeds hands exactly one token over, as its last effect: the content
of the broker's last answer, byte for byte, which is then read from the store. After any other
authentication, and after one that was dropped, the store reads as before. A store in memory needs
nothing for this. -/
theorem authenticate_hands_over_or_leaves (a : Authenticator) (w : World)
    (h : ∀ store, w.store = .file store → a.ServedIn w) :
    (((a.authenticate w.session).run w).1 = .ok () →
      ∃ before client request response token,
        (a.authenticate w.session).eventsIn w =
            before ++ [⟨.send client request, .ok response⟩, ⟨.store token, .ok ()⟩] ∧
          (∀ event ∈ before, event.effect.isStore = false) ∧ request.method = .post ∧
          response.isSuccess = true ∧ response.body = some token ∧ token ≠ [] ∧
          ((a.authenticate w.session).run w).2.token = .ok token) ∧
    (((a.authenticate w.session).run w).1 ≠ .ok () →
      ((a.authenticate w.session).run w).2.token = w.token) ∧
    (∀ stored, ⟨.store [], stored⟩ ∈ (a.authenticate w.session).eventsIn w →
      ((a.authenticate w.session).run w).1 = .failed .emptyPayload) ∧
    (∀ steps < ((a.authenticate w.session).eventsIn w).length,
      (Program.runFor World.answer steps (a.authenticate w.session) w).token = w.token) ∧
    (∀ limit < ((a.authenticate w.session).run w).2.clock,
      (Exchange.droppedAt limit (a.authenticate w.session) w).token = w.token) := by
  have hserved : a.ServedIn w := by
    cases hstore : w.store with
    | memory store => exact .of_memory hstore
    | file store => exact h store hstore
  exact ⟨hserved.token_of_ok, hserved.token_of_failed, fun _ => failed_of_empty,
    fun _ => hserved.token_of_runFor, fun _ => hserved.token_of_droppedAt⟩

deriving instance DecidableEq for Except

namespace Sample

/-- A token that was handed over earlier. -/
def older : Bytes := Utf8.ofString "older"

/-- A working directory with the file of that token. -/
def files : FileSystem := World.writeForeign .empty "token" older

def authenticator : CertificateAuthenticator :=
  { CertificateAuthenticator.Sample.authenticator with
    connector := { pool := ⟨[]⟩, timeout := .ofSecs 5 } }

/-- The broker takes a second for the access token. -/
def world : World :=
  { CertificateAuthenticator.Sample.world
      [CertificateAuthenticator.Sample.signed,
        { CertificateAuthenticator.Sample.granted with took := .ofSecs 1 }] with
    files, store := .forPath (some "token") }

theorem served : (Authenticator.certificate authenticator).ServedIn world := by
  have hlocate : files.locate "token" = .ok (Path.place "token", some (.file 0)) := by
    decide +kernel
  have hstore : world.store = .file (.create "token") := rfl
  have hsound : files.Sound := World.writeForeign_sound empty_sound "token" older
  refine .of_file hstore (by decide) (by decide) hlocate ⟨hsound, ?_, ?_⟩ ?_
  · decide
  · decide
  · intro removed hremoved
    cases hremoved
    decide

end Sample

theorem authenticate_hands_over_or_leaves_anew :
    let a := Authenticator.certificate Sample.authenticator
    let w := Sample.world
    w.token = .ok Sample.older ∧ ((a.authenticate w.session).run w).1 = .ok () ∧
      (∃ token, ((a.authenticate w.session).run w).2.token = .ok token) ∧
      ∀ limit < ((a.authenticate w.session).run w).2.clock,
        (Exchange.droppedAt limit (a.authenticate w.session) w).token = .ok Sample.older := by
  intro a w
  have holder : w.token = .ok Sample.older := by decide +kernel
  have hok : ((a.authenticate w.session).run w).1 = .ok () := by decide +kernel
  obtain ⟨hdone, _, _, _, hdropped⟩ :=
    authenticate_hands_over_or_leaves a w fun _ _ => Sample.served
  obtain ⟨_, _, _, _, token, _, _, _, _, _, _, htoken⟩ := hdone hok
  refine ⟨holder, hok, ⟨token, htoken⟩, ?_⟩
  intro limit hlimit
  rw [hdropped limit hlimit, holder]

end Authenticator

end WorkloadIdentity
