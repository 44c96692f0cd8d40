import WorkloadIdentity.Proofs.FileSystem.Erasure
import WorkloadIdentity.Proofs.Refresh.Cycles
import WorkloadIdentity.Proofs.Retry.Windows

/-!
A store with a record of what it was asked for, as the world of a run. The attempts go by a script,
and one that comes to a token hands it to the store. `Desk.Kept` is what attempts keep up to any
point of a run: they delete nothing, and the store holds the token of the last one that succeeded,
or what it held at the start.
-/

namespace WorkloadIdentity

/-- What a store is asked for. -/
inductive StoreCall where
  | write (token : Bytes)
  | delete
deriving DecidableEq

/-- A store and its files, with the number of attempts so far and the calls to the store with
their results. -/
structure Desk where
  made : Nat
  store : TokenStore
  files : FileSystem
  calls : List (StoreCall × Except Failure Unit)

namespace Desk

def token (desk : Desk) : Except Failure Bytes := desk.store.read desk.files

def write (desk : Desk) (token : Bytes) : Except Failure Unit × Desk :=
  let (result, store, files) := desk.store.write token desk.files
  (result, { desk with store, files, calls := desk.calls ++ [(.write token, result)] })

/-- Deletes the token; whether that could be done is on record, but nothing depends on it. -/
def delete (desk : Desk) : Desk :=
  let (result, store, files) := desk.store.delete desk.files
  { desk with store, files, calls := desk.calls ++ [(.delete, result)] }

def count (desk : Desk) : Desk := { desk with made := desk.made + 1 }

def attempt (script : Nat → Scripted) : Attempt Desk Unit := fun start desk =>
  (script desk.made).course start desk.count desk.count.write

variable {script : Nat → Scripted} {s : RetrySettings} {schedule : Schedule} {turn : Turn Desk}
  {finish : Finish Desk Unit} {start desk : Desk} {trials : List (Trial Desk Unit)}

/-! ### One attempt -/

/-- An attempt leaves the store alone and does not succeed, or it has written its token, with the
result that this had. -/
theorem attempt_finished
    (h : Cycle.attemptAt s schedule (attempt script) turn = .finished finish) :
    (finish.outcome.isOk = false ∧ finish.world = turn.world.count) ∨
      ∃ token, (script turn.world.made).result = .ok token ∧
        finish.outcome = .ofExcept (turn.world.count.write token).1 ∧
        finish.world = (turn.world.count.write token).2 := by
  have hdropped (seen : Instant)
      (hseen : finish = ((attempt script) turn.now turn.world).drop seen) :
      finish.outcome.isOk = false ∧ finish.world = turn.world.count := by
    subst hseen
    exact ⟨rfl, rfl⟩
  rcases Cycle.attemptAt_finished h with hfinish | ⟨seen, hseen, _⟩
  · rcases Cycle.finish?_cases hfinish with ⟨hown, _⟩ | ⟨limit, _, hseen⟩
    · obtain ⟨took, _, rfl⟩ := Option.map_eq_some_iff.mp hown
      unfold Scripted.finishAt
      cases hresult : (script turn.world.made).result with
      | ok token => exact Or.inr ⟨token, rfl, rfl, rfl⟩
      | error failure => exact Or.inl ⟨rfl, rfl⟩
    · exact Or.inl (hdropped _ hseen)
  · exact Or.inl (hdropped seen hseen)

/-! ### What attempts keep -/

def lastSuccess? (trials : List (Trial Desk Unit)) : Option (Trial Desk Unit) :=
  (trials.filter Trial.succeeded).getLast?

theorem lastSuccess?_append_of_failed {trial : Trial Desk Unit}
    (h : trial.succeeded = false) (trials : List (Trial Desk Unit)) :
    lastSuccess? (trials ++ [trial]) = lastSuccess? trials := by
  simp [lastSuccess?, h]

theorem lastSuccess?_append_of_succeeded {trial : Trial Desk Unit}
    (h : trial.succeeded = true) (trials : List (Trial Desk Unit)) :
    lastSuccess? (trials ++ [trial]) = some trial := by
  simp [lastSuccess?, h]

/-- What a reader finds after some attempts. -/
def Shows (script : Nat → Scripted) (start : Desk) (trials : List (Trial Desk Unit))
    (desk : Desk) : Prop :=
  match lastSuccess? trials with
  | some trial =>
    ∃ token, (script trial.turn.world.made).result = .ok token ∧ desk.token = .ok token
  | none => ∀ token, desk.token = .ok token ↔ start.token = .ok token

/-- What attempts keep to that start at a desk. -/
structure Kept (script : Nat → Scripted) (start : Desk) (trials : List (Trial Desk Unit))
    (desk : Desk) : Prop where
  sound : desk.files.Sound
  path : desk.store.path? = start.store.path?
  usable : ∀ path, start.store.path? = some path → ".." ∉ Path.names path →
    start.files.Usable path → desk.files.Usable path
  calls : ∃ written, desk.calls = start.calls ++ written ∧ ∀ call ∈ written, call.1 ≠ .delete
  shows : Shows script start trials desk

theorem kept_start (hsound : start.files.Sound) : Kept script start [] start where
  sound := hsound
  path := rfl
  usable _ _ _ husable := husable
  calls := ⟨[], by simp, by simp⟩
  shows _ := Iff.rfl

/-- A failed attempt that leaves the tokens as they are shows no other one. -/
theorem Shows.of_failed {after : Desk} {trial : Trial Desk Unit}
    (h : Shows script start trials desk) (hfailed : trial.succeeded = false)
    (hsame : ∀ token, after.token = .ok token ↔ desk.token = .ok token) :
    Shows script start (trials ++ [trial]) after := by
  unfold Shows at h ⊢
  rw [lastSuccess?_append_of_failed hfailed]
  split at h
  · obtain ⟨token, hresult, htoken⟩ := h
    exact ⟨token, hresult, (hsame token).mpr htoken⟩
  · next hnone =>
      intro token
      rw [hsame, h]

theorem Kept.write (h : Kept script start trials desk) {token : Bytes} {trial : Trial Desk Unit}
    (hresult : (script trial.turn.world.made).result = .ok token)
    (houtcome : trial.finish.outcome = .ofExcept (desk.write token).1) :
    Kept script start (trials ++ [trial]) (desk.write token).2 where
  sound := TokenStore.write_sound h.sound desk.store token
  path := (TokenStore.path?_write desk.store token desk.files).trans h.path
  usable path hpath hup husable :=
    TokenStore.usable_of_write h.sound (h.usable path hpath hup husable) hup (h.path.trans hpath)
      token
  calls := by
    obtain ⟨written, hcalls, hwritten⟩ := h.calls
    refine ⟨written ++ [(.write token, (desk.write token).1)], ?_, ?_⟩
    · rw [← List.append_assoc, ← hcalls]
      rfl
    · intro call hcall
      rcases List.mem_append.mp hcall with hcall | hcall
      · exact hwritten call hcall
      · obtain rfl := List.mem_singleton.mp hcall
        simp
  shows := by
    cases hwrite : (desk.write token).1 with
    | ok given =>
        have hsucceeded : trial.succeeded = true := by
          unfold Trial.succeeded
          rw [houtcome, hwrite]
          rfl
        unfold Shows
        rw [lastSuccess?_append_of_succeeded hsucceeded]
        exact ⟨token, hresult, (TokenStore.read_of_write (fun _ _ => h.sound) hwrite).2⟩
    | error failure =>
        apply h.shows.of_failed
        · unfold Trial.succeeded
          rw [houtcome, hwrite]
          rfl
        · exact TokenStore.read_of_write_error hwrite

theorem Kept.count (h : Kept script start trials desk) : Kept script start trials desk.count :=
  ⟨h.sound, h.path, h.usable, h.calls, h.shows⟩

theorem Kept.step (h : Kept script start trials turn.world)
    (hattempt : Cycle.attemptAt s schedule (attempt script) turn = .finished finish) :
    Kept script start (trials ++ [⟨turn, finish⟩]) finish.world := by
  rcases attempt_finished hattempt with ⟨hfailed, hworld⟩ | ⟨token, hresult, houtcome, hworld⟩
  · rw [hworld]
    have hcount := h.count
    exact { hcount with shows := hcount.shows.of_failed hfailed fun _ => Iff.rfl }
  · rw [hworld]
    exact h.count.write hresult houtcome

/-- Without a success everything is as it was at a usable path. -/
theorem Kept.token_eq (h : Kept script start trials desk)
    (husable : ∀ path, start.store.path? = some path →
      start.files.Usable path ∧ ".." ∉ Path.names path)
    (hnone : lastSuccess? trials = none) : desk.token = start.token := by
  have hsame : ∀ token, desk.token = .ok token ↔ start.token = .ok token := by
    have hshows := h.shows
    unfold Shows at hshows
    rwa [hnone] at hshows
  have hstart : start.token = .error .noData ∨ ∃ token, start.token = .ok token :=
    TokenStore.read_cases fun path hpath => (husable path hpath).1
  have hdesk : desk.token = .error .noData ∨ ∃ token, desk.token = .ok token := by
    apply TokenStore.read_cases
    intro path hpath
    rw [h.path] at hpath
    exact h.usable path hpath (husable path hpath).2 (husable path hpath).1
  -- Both read a token or none, and the same tokens.
  rcases hdesk with hdesk | ⟨token, htoken⟩
  · rcases hstart with hstart | ⟨token, htoken⟩
    · rw [hdesk, hstart]
    · rw [(hsame token).mpr htoken, htoken]
  · rw [htoken, (hsame token).mp htoken]

theorem delete_token (husable : ∀ path, desk.store.path? = some path →
      desk.files.Usable path ∨ desk.delete.files.Usable path) :
    desk.delete.token = .error .noData :=
  TokenStore.read_of_delete husable

theorem delete_calls (desk : Desk) :
    desk.delete.calls = desk.calls ++ [(.delete, (desk.store.delete desk.files).1)] := rfl

end Desk

end WorkloadIdentity
