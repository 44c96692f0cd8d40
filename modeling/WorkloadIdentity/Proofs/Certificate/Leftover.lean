import WorkloadIdentity.Proofs.Certificate.Authentication
import WorkloadIdentity.Proofs.Exchange.Delivery
import WorkloadIdentity.Proofs.FileSystem.Alike

/-!
What lies at the certificate's path when a login begins. The login removes it before it looks
there, so a file that is left over from an earlier login makes no difference; and a certificate
that has been delivered is removed as soon as it has been read. Both are shown by running two
worlds side by side whose files look alike.
-/

namespace WorkloadIdentity

/-- The effect neither takes nor gives the number of a file. -/
def Effect.HidesNumbers : Effect → Prop
  | .file (.read _) | .file (.remove _) => True
  | .file _ | .store _ => False
  | _ => True

namespace World

variable {w other : World}

/-- Worlds that differ in nothing but the numbers of their files. -/
inductive Alike (w : World) : World → Prop
  | of_files {files : FileSystem} : w.files.Alike files → Alike w { w with files }

theorem Alike.files (h : w.Alike other) : w.files.Alike other.files := by
  cases h with
  | of_files halike => exact halike

theorem Alike.answered (h : w.Alike other) : other.answered = w.answered := by
  cases h with
  | of_files _ => rfl

theorem Alike.session (h : w.Alike other) : other.session = w.session := by
  cases h with
  | of_files _ => rfl

theorem writeForeign_alike {fs other : FileSystem} (h : fs.Alike other) (path : Path)
    (content : Bytes) : (writeForeign fs path content).Alike (writeForeign other path content) := by
  unfold writeForeign
  have hput := h.put path content foreignMode
  generalize fs.put path content foreignMode = first at hput
  generalize other.put path content foreignMode = second at hput
  cases hput with
  | fail fault => exact h
  | come halike => exact halike

theorem foldl_alike {ι : Type} {write : FileSystem → ι → FileSystem}
    (hwrite : ∀ fs other i, fs.Alike other → (write fs i).Alike (write other i)) (written : List ι)
    {fs other : FileSystem} (h : fs.Alike other) :
    (written.foldl write fs).Alike (written.foldl write other) := by
  induction written generalizing fs other with
  | nil => exact h
  | cons i written ih => exact ih (hwrite fs other i h)

theorem Alike.advance (h : w.Alike other) (time : Instant) :
    (w.advance time).Alike (other.advance time) := by
  cases h with
  | of_files halike =>
      have hwritten := foldl_alike (fun _ _ (a : Arrival) hfiles =>
        writeForeign_alike hfiles a.path a.content) (w.arrivals.partition (·.time ≤ time)).1 halike
      exact .of_files (w := w.advance time) hwritten

theorem Alike.afterReply (h : w.Alike other) (client : Client) (request : Request)
    (reply : Reply) :
    (w.afterReply client request reply).Alike (other.afterReply client request reply) := by
  cases h with
  | of_files halike =>
      have hadvanced := ((Alike.of_files halike).advance (w.clock.after reply.took)).files
      have hwritten := foldl_alike (fun _ _ (file : Path × Bytes) hfiles =>
        writeForeign_alike hfiles file.1 file.2) reply.files hadvanced
      exact .of_files (w := w.afterReply client request reply) hwritten

theorem Alike.send (h : w.Alike other) (client : Client) (request : Request) :
    (w.send client request).1 = (other.send client request).1 ∧
      (w.send client request).2.Alike (other.send client request).2 := by
  cases h with
  | of_files halike =>
      obtain ⟨clock, epoch, files, arrivals, replies, answered, store, session⟩ := w
      cases replies with
      | nil => exact ⟨rfl, .of_files halike⟩
      | cons reply rest =>
          have hnext := Alike.of_files
            (w := ⟨clock, epoch, files, arrivals, rest, answered, store, session⟩) halike
          unfold World.send
          dsimp only
          split
          · exact ⟨rfl, hnext.advance (clock.after client.timeout)⟩
          · exact ⟨rfl, hnext.afterReply client request reply⟩

theorem Alike.answer {effect : Effect} (h : w.Alike other) (heffect : effect.HidesNumbers) :
    (w.answer effect).1 = (other.answer effect).1 ∧
      (w.answer effect).2.Alike (other.answer effect).2 := by
  cases effect with
  | sleep d =>
      cases h with
      | of_files halike => exact ⟨rfl, (Alike.of_files halike).advance (w.clock.after d)⟩
  | send client request => exact h.send client request
  | store token => exact heffect.elim
  | now =>
      cases h with
      | of_files halike => exact ⟨rfl, .of_files halike⟩
  | keep session =>
      cases h with
      | of_files halike => exact ⟨rfl, .of_files (w := { w with session }) halike⟩
  | file call =>
      cases h with
      | @of_files files halike =>
          cases call with
          | read path => exact ⟨halike.read path, .of_files halike⟩
          | remove path =>
              have hremoved := halike.remove path
              simp only [World.answer, FileSystem.answer]
              generalize w.files.remove path = first at hremoved
              generalize files.remove path = second at hremoved
              cases hremoved with
              | fail fault => exact ⟨rfl, .of_files halike⟩
              | @come left gone hleft => exact ⟨rfl, .of_files (w := { w with files := left }) hleft⟩
          | _ => exact heffect.elim

end World

namespace Exchange

variable {α : Type} {w other : World}

theorem run_alike {p : Exchange α} (hp : p.Only Effect.HidesNumbers) (h : w.Alike other) :
    (p.run w).1 = (p.run other).1 ∧ (p.run w).2.Alike (p.run other).2 := by
  unfold Exchange.run
  induction hp generalizing w other with
  | done outcome => exact ⟨rfl, h⟩
  | perform effect next heffect _ ih =>
      obtain ⟨hanswer, hafter⟩ := h.answer heffect
      simp only [Program.run]
      rw [hanswer]
      exact ih _ hafter

end Exchange

namespace Delivery

open Exchange (Event)

/-- The waiter looks once. It is done if it finds something, and fails or looks again later if it
does not. -/
theorem awaitFrom_cases {path : Path} {interval waited : Duration} {more : Nat}
    {events : List Event} {outcome : Outcome Bytes}
    (h : (awaitFrom path interval more waited).Yields events outcome) :
    ∃ (look : Except IoFault Bytes) (rest : List Event),
      events = ⟨.file (.read path), look⟩ :: rest ∧
      ((∃ content, found look = .ok (some content) ∧ rest = [] ∧ outcome = .ok content) ∨
        (∀ content, found look ≠ .ok (some content)) ∧
          ((rest = [] ∧ ∀ content, outcome ≠ .ok content) ∨
            ∃ later, rest = ⟨.sleep interval, ()⟩ :: later ∧
              ((later = [] ∧ ∀ content, outcome ≠ .ok content) ∨
                ∃ fewer total, more = fewer + 1 ∧
                  (awaitFrom path interval fewer total).Yields later outcome))) := by
  rw [awaitFrom.eq_def] at h
  obtain ⟨look, rest, rfl, hlook⟩ := Exchange.yields_call_bind_iff.mp h
  refine ⟨look, rest, rfl, ?_⟩
  rw [Exchange.ofExcept_bind] at hlook
  cases hfound : found look with
  | error failure =>
      rw [hfound] at hlook
      obtain ⟨rfl, rfl⟩ := Exchange.yields_ofOutcome_iff.mp hlook
      exact Or.inr ⟨by simp, Or.inl ⟨rfl, by simp⟩⟩
  | ok given =>
      rw [hfound] at hlook
      cases given with
      | some content =>
          obtain ⟨rfl, rfl⟩ := Exchange.yields_ofOutcome_iff.mp hlook
          exact Or.inl ⟨content, rfl, rfl, rfl⟩
      | none =>
          refine Or.inr ⟨by simp, ?_⟩
          cases more with
          | zero =>
              obtain ⟨rfl, rfl⟩ := Exchange.yields_ofOutcome_iff.mp hlook
              exact Or.inl ⟨rfl, by simp⟩
          | succ fewer =>
              obtain ⟨_, later, rfl, hlater⟩ := Exchange.yields_call_bind_iff.mp hlook
              refine Or.inr ⟨later, rfl, ?_⟩
              cases htotal : waited.add? interval with
              | none =>
                  rw [htotal] at hlater
                  obtain ⟨rfl, rfl⟩ := Exchange.yields_ofOutcome_iff.mp hlater
                  exact Or.inl ⟨rfl, by simp⟩
              | some total =>
                  rw [htotal] at hlater
                  exact Or.inr ⟨fewer, total, rfl, hlater⟩

/-- A look that finds something is the last thing that the waiter does. -/
theorem awaitFrom_reads {path : Path} {interval waited : Duration} {more : Nat}
    {before after : List Event} {outcome : Outcome Bytes} {content : Bytes}
    (h : (awaitFrom path interval more waited).Yields
      (before ++ ⟨.file (.read path), .ok content⟩ :: after) outcome)
    (hcontent : content ≠ []) : after = [] ∧ outcome = .ok content := by
  induction more using Nat.strongRecOn generalizing waited before with
  | ind more ih =>
      obtain ⟨look, rest, hevents, hrest⟩ := awaitFrom_cases h
      cases before with
      | nil =>
          cases hevents
          have hfound := found_eq_some_iff.mpr ⟨rfl, hcontent⟩
          rcases hrest with ⟨own, hown, rfl, rfl⟩ | ⟨hnone, _⟩
          · cases hfound.symm.trans hown
            exact ⟨rfl, rfl⟩
          · exact (hnone content hfound).elim
      | cons event before =>
          obtain ⟨_, hrestEq⟩ := List.cons.inj hevents
          rcases hrest with ⟨_, _, hnil, _⟩ | ⟨_, ⟨hnil, _⟩ | ⟨later, hlater, hnext⟩⟩
          · simp [hnil] at hrestEq
          · simp [hnil] at hrestEq
          · subst hlater
            cases before with
            | nil => cases hrestEq
            | cons event before =>
                obtain ⟨_, rfl⟩ := List.cons.inj hrestEq
                rcases hnext with ⟨hnil, _⟩ | ⟨fewer, total, rfl, hagain⟩
                · simp at hnil
                · exact ih fewer (Nat.lt_succ_self fewer) hagain

theorem awaitFrom_ends_reading {path : Path} {interval waited : Duration} {more : Nat}
    {events : List Event} {delivered : Bytes}
    (h : (awaitFrom path interval more waited).Yields events (.ok delivered)) :
    delivered ≠ [] ∧ ∃ looked, events = looked ++ [⟨.file (.read path), .ok delivered⟩] := by
  induction more using Nat.strongRecOn generalizing waited events with
  | ind more ih =>
      obtain ⟨look, rest, rfl, hrest⟩ := awaitFrom_cases h
      rcases hrest with ⟨own, hown, rfl, houtcome⟩ | ⟨_, ⟨_, hfailed⟩ | ⟨later, rfl, hnext⟩⟩
      · cases houtcome
        obtain ⟨rfl, hcontent⟩ := found_eq_some_iff.mp hown
        exact ⟨hcontent, [], rfl⟩
      · exact (hfailed delivered rfl).elim
      · rcases hnext with ⟨_, hfailed⟩ | ⟨fewer, total, rfl, hagain⟩
        · exact (hfailed delivered rfl).elim
        · obtain ⟨hcontent, looked, rfl⟩ := ih fewer (Nat.lt_succ_self fewer) hagain
          exact ⟨hcontent, _ :: _ :: looked, rfl⟩

end Delivery

namespace CertificateAuthenticator

open Exchange (Event)

variable {a : CertificateAuthenticator} {w other : World}

theorem login_hidesNumbers (a : CertificateAuthenticator) : a.login.Only Effect.HidesNumbers := by
  apply (login_only a).mono
  rintro effect (hkeep | hworks)
  · cases effect with
    | keep session => trivial
    | _ => cases hkeep
  · cases effect with
    | file call =>
        rcases hworks with rfl | rfl
        · trivial
        · trivial
    | store token => exact hworks.elim
    | _ => trivial

/-- A login gives up the session, removes what lies at the path, and goes on no matter whether
there was something to remove. -/
theorem login_run (a : CertificateAuthenticator) : ∃ rest : Exchange Session,
    rest.Only Effect.HidesNumbers ∧ ∀ w, a.login.run w = rest.run { w with
      session := none, files := (w.files.answer (.remove a.settings.certificatePath)).2 } := by
  obtain ⟨rest, hlogin, hsame⟩ :
      ∃ rest : (Effect.file (.remove a.settings.certificatePath)).Answer → Exchange Session,
        a.login = Program.perform (.keep none) (fun _ => Program.perform
          (.file (.remove a.settings.certificatePath)) rest) ∧ ∀ one other, rest one = rest other :=
    ⟨_, rfl, fun _ _ => rfl⟩
  refine ⟨rest (.ok ()), ?_, ?_⟩
  · have honly := login_hidesNumbers a
    rw [hlogin] at honly
    cases honly with
    | perform _ _ _ honly =>
        cases honly () with
        | perform _ _ _ honly => exact honly _
  · intro w
    rw [hlogin]
    exact congrArg (fun next : Exchange Session => next.run _) (hsame _ (.ok ()))

/-- Two logins that begin with different leftovers. -/
theorem login_alike {files : FileSystem}
    (h : FileSystem.DifferAt a.settings.certificatePath w.files files) :
    (a.login.run w).1 = (a.login.run { w with files }).1 ∧
      (a.login.run w).2.Alike (a.login.run { w with files }).2 := by
  obtain ⟨rest, honly, hrun⟩ := login_run a
  rw [hrun, hrun]
  exact Exchange.run_alike honly (.of_files h.removed)

/-! ### What has been read is removed -/

/-- Once the exchange has read some content at a path, it removes what is there and is done. -/
def ClearsWhatItReads {α : Type} (path : Path) (p : Exchange α) : Prop :=
  ∀ (before after : List Event) (outcome : Outcome α) (content : Bytes),
    p.Yields (before ++ ⟨.file (.read path), .ok content⟩ :: after) outcome → content ≠ [] →
      ∃ removed, after = [⟨.file (.remove path), removed⟩]

theorem clears_bind {α β : Type} {path : Path} {p : Exchange α} {f : α → Exchange β}
    (hp : p.Only (· ≠ .file (.read path))) (hf : ∀ value, ClearsWhatItReads path (f value)) :
    ClearsWhatItReads path (p >>= f) := by
  intro before after outcome content h hcontent
  have hnot {events rest : List Event} {result : Outcome α} (hfirst : p.Yields events result)
      (hread : events = before ++ ⟨.file (.read path), .ok content⟩ :: rest) : False :=
    hp.of_begins hfirst.begins ⟨.file (.read path), .ok content⟩ (by simp [hread]) rfl
  rcases Exchange.yields_bind_iff.mp h with ⟨first, value, rest, hevents, hfirst, hrest⟩ |
    ⟨_, _, hfirst⟩ | ⟨_, hfirst⟩
  · rcases Exchange.event_of_append hevents with ⟨tail, htail⟩ | ⟨middle, _, hread⟩
    · exact (hnot hfirst htail).elim
    · subst hread
      exact hf value _ _ _ _ hrest hcontent
  · exact (hnot hfirst rfl).elim
  · exact (hnot hfirst rfl).elim

theorem await_clears (path : Path) (limit : Nat) (interval : Duration)
    (make : Bytes → Except Failure Session) :
    ClearsWhatItReads path (Delivery.await path limit interval >>= fun delivered =>
      Exchange.discardFile path >>= fun _ => Exchange.ofExcept (make delivered)) := by
  intro before after outcome content h hcontent
  rcases Exchange.yields_bind_iff.mp h with ⟨first, delivered, rest, hevents, hfirst, hrest⟩ |
    ⟨_, rfl, hfirst⟩ | ⟨rfl, hfirst⟩
  · obtain ⟨removed, last, rfl, hlast⟩ : ∃ removed last,
        rest = ⟨.file (.remove path), removed⟩ :: last ∧
          (Exchange.ofExcept (make delivered)).Yields last outcome :=
      Program.yields_perform_iff.mp hrest
    obtain ⟨rfl, _⟩ := Exchange.yields_ofOutcome_iff.mp hlast
    rcases Exchange.event_of_append hevents with ⟨tail, htail⟩ | ⟨middle, _, hread⟩
    · subst htail
      obtain ⟨rfl, _⟩ := Delivery.awaitFrom_reads hfirst hcontent
      exact ⟨removed, by simpa using hevents⟩
    · cases middle with
      | nil => cases hread
      | cons event middle => simp at hread
  · cases (Delivery.awaitFrom_reads hfirst hcontent).2
  · cases (Delivery.awaitFrom_reads hfirst hcontent).2

theorem newSession_clears (a : CertificateAuthenticator) :
    ClearsWhatItReads a.settings.certificatePath a.newSession := by
  have hdiscard : (Exchange.discardFile a.settings.certificatePath).Only
      (· ≠ .file (.read a.settings.certificatePath)) :=
    .bind (.call (by simp)) fun _ => .ofOutcome _
  have hresponse (csr : SigningRequest) :
      (Exchange.response a.connector.client (a.loginRequest csr)).Only
        (· ≠ .file (.read a.settings.certificatePath)) := by
    cases a.loginRequest csr with
    | ok built => exact .call (by simp)
    | error fault => exact .ofOutcome _
  unfold newSession
  refine clears_bind hdiscard fun _ => ?_
  refine clears_bind (.ofOutcome _) fun csr => ?_
  refine clears_bind (hresponse csr) fun _ => ?_
  refine clears_bind (.ofOutcome _) fun _ => ?_
  exact await_clears _ _ _ _

/-- After the file has been read it is removed, and the session that its content may make is kept.
Nothing else follows. -/
theorem login_after_read {before after : List Event} {outcome : Outcome Session} {content : Bytes}
    (h : a.login.Yields
      (before ++ ⟨.file (.read a.settings.certificatePath), .ok content⟩ :: after) outcome)
    (hcontent : content ≠ []) :
    ∃ removed, after =
      ⟨.file (.remove a.settings.certificatePath), removed⟩ :: closing outcome := by
  obtain ⟨made, hevents, hmade⟩ := login_yields_iff.mp h
  cases before with
  | nil => cases hevents
  | cons event before =>
      obtain ⟨_, hrest⟩ := List.cons.inj hevents
      rcases Exchange.event_of_append hrest with ⟨tail, htail⟩ | ⟨middle, _, hread⟩
      · subst htail
        obtain ⟨removed, rfl⟩ := newSession_clears a _ _ _ _ hmade hcontent
        exact ⟨removed, by simpa using hrest⟩
      · have hkeep : (⟨.file (.read a.settings.certificatePath), .ok content⟩ : Event) ∈
            closing outcome := by simp [hread]
        cases outcome with
        | ok session => cases congrArg Program.Event.effect (List.mem_singleton.mp hkeep)
        | failed failure => cases hkeep
        | overflow => cases hkeep

theorem closing_files (outcome : Outcome Session) (w : World) :
    (w.afterEvents (closing outcome)).files = w.files := by
  cases outcome <;> rfl

theorem login_clears {before waited after : List Event} {delivered : Bytes}
    (hevents : a.login.eventsIn w = before ++ waited ++ after)
    (hwaited : (Delivery.await a.settings.certificatePath a.settings.retryLimit
      a.settings.pollInterval).Yields waited (.ok delivered)) :
    (a.login.run w).2.files.exists? a.settings.certificatePath = false := by
  obtain ⟨hcontent, looked, rfl⟩ := Delivery.awaitFrom_ends_reading hwaited
  have htrace : a.login.eventsIn w = (before ++ looked) ++
      ⟨.file (.read a.settings.certificatePath), .ok delivered⟩ :: after := by
    simpa using hevents
  have hyields := a.login.yields_eventsIn w
  rw [htrace] at hyields
  obtain ⟨removed, rfl⟩ := login_after_read hyields hcontent
  have hread : (w.afterEvents (before ++ looked)).files.read a.settings.certificatePath =
      .ok delivered := (Program.answer_of_trace World.answer htrace).symm
  rw [Exchange.run_world, htrace, World.afterEvents_append, World.afterEvents_cons,
    World.afterEvents_cons, closing_files]
  exact FileSystem.exists?_of_removed hread

/-- A login does not depend on what file lies at the certificate's path when it begins: with
another one there, or none, it comes to the same, has sent the same and leaves the same. And once
the waiter has returned some bytes, no file is left there, whatever becomes of the bytes. -/
theorem login_ignores_leftover (a : CertificateAuthenticator) (w : World) :
    (∀ files, FileSystem.DifferAt a.settings.certificatePath w.files files →
      let one := a.login.run w
      let other := a.login.run { w with files }
      other.1 = one.1 ∧ other.2.answered = one.2.answered ∧ other.2.session = one.2.session ∧
        other.2.files.file? a.settings.certificatePath =
          one.2.files.file? a.settings.certificatePath ∧
        one.2.Alike other.2) ∧
    ∀ before waited after delivered, a.login.eventsIn w = before ++ waited ++ after →
      (Delivery.await a.settings.certificatePath a.settings.retryLimit
        a.settings.pollInterval).Yields waited (.ok delivered) →
      (a.login.run w).2.files.exists? a.settings.certificatePath = false := by
  constructor
  · intro files hdiffer one other
    obtain ⟨houtcome, halike⟩ : one.1 = other.1 ∧ one.2.Alike other.2 := login_alike hdiffer
    -- From here on it does not matter how the two results have come about.
    clear_value one other
    have hfile := halike.files.file? a.settings.certificatePath
    exact ⟨houtcome.symm, halike.answered, halike.session, hfile.symm, halike⟩
  · intro before waited after delivered hevents hwaited
    exact login_clears hevents hwaited

namespace Sample

/-- A file that an earlier login has left. -/
def leftover : FileSystem :=
  FileSystem.setNode { FileSystem.empty with objects := [⟨[1, 2, 3], 0o600⟩] }
    (Path.place "client.pem") (some (.file 0))

theorem leftover_differs :
    FileSystem.DifferAt "client.pem" (world [signed]).files leftover :=
  FileSystem.differAt_create FileSystem.empty_sound (by rfl) (by decide) ⟨[1, 2, 3], 0o600⟩

end Sample

theorem login_ignores_leftover_stale :
    let a := Sample.authenticator
    let w := Sample.world [Sample.signed]
    FileSystem.DifferAt a.settings.certificatePath w.files Sample.leftover ∧
      (∃ session, (a.login.run w).1 = .ok session ∧
        (a.login.run { w with files := Sample.leftover }).1 = .ok session) ∧
      (a.login.run w).2.files.exists? a.settings.certificatePath = false ∧
      (a.login.run { w with files := Sample.leftover }).2.files.file?
        a.settings.certificatePath = (a.login.run w).2.files.file? a.settings.certificatePath := by
  intro a w
  obtain ⟨hsame, hclears⟩ := login_ignores_leftover a w
  obtain ⟨houtcome, _, _, hfile, _⟩ := hsame Sample.leftover Sample.leftover_differs
  have hok : ((a.login.run w).1 >>= fun _ => Outcome.ok ()) = .ok () := by decide +kernel
  obtain ⟨session, hsession⟩ : ∃ session, (a.login.run w).1 = .ok session := by
    cases hresult : (a.login.run w).1 with
    | ok session => exact ⟨session, rfl⟩
    | failed failure => simp [hresult, bind, Outcome.andThen] at hok
    | overflow => simp [hresult, bind, Outcome.andThen] at hok
  have hyields : a.login.Yields (a.login.eventsIn w) (.ok session) :=
    hsession ▸ a.login.yields_eventsIn w
  obtain ⟨made, hevents, hmade⟩ := login_yields_iff.mp hyields
  obtain ⟨before, waited, after, delivered, rfl, hwaited, _⟩ := newSession_delivered hmade
  have hsplit : a.login.eventsIn w =
      (⟨.keep none, ()⟩ :: before) ++ waited ++ (after ++ closing (.ok session)) := by
    rw [hevents]
    simp
  have hgone := hclears _ waited _ delivered hsplit hwaited
  exact ⟨Sample.leftover_differs, ⟨session, hsession, houtcome.trans hsession⟩, hgone, hfile⟩

end CertificateAuthenticator

end WorkloadIdentity
