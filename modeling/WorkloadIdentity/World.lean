import WorkloadIdentity.Authenticator
import WorkloadIdentity.Retry.Refresh

/-!
A world to run exchanges in. Its files, store and session are changed by the exchange alone, its
clock by pauses and requests. What others do is settled beforehand: which files they write and
when, and how the requests will be answered, one after the other. A request that nobody answers
any more is not sent.
-/

namespace WorkloadIdentity

/-- A file that somebody else writes at an instant. -/
structure Arrival where
  time : Instant
  path : Path
  content : Bytes
deriving DecidableEq, Repr

/-- How a request is answered, and the files that are written before the answer comes. -/
structure Reply where
  answer : Except TransportFault Response
  took : Duration
  files : List (Path × Bytes)

structure World where
  clock : Instant
  /-- The point in time at which the clock stood at zero. -/
  epoch : WallTime
  files : FileSystem
  arrivals : List Arrival
  replies : List Reply
  /-- The requests that were answered, with the clients that sent them. -/
  answered : List (Client × Request)
  store : TokenStore
  session : Option Session

namespace World

/-- A world at the start of its clock, in which nothing comes from outside. -/
def quiet (epoch : WallTime) (files : FileSystem) (store : TokenStore) : World where
  clock := 0
  epoch := epoch
  files := files
  arrivals := []
  replies := []
  answered := []
  store := store
  session := none

/-- The permissions of files that others write. -/
def foreignMode : Nat := 0o644

/-- Writes a file as others do; where that cannot be done there is no file. -/
def writeForeign (files : FileSystem) (path : Path) (content : Bytes) : FileSystem :=
  (files.put path content foreignMode).toOption.getD files

/-- The world at a later instant, with the files that have been written by then. -/
def advance (w : World) (time : Instant) : World :=
  let (due, later) := w.arrivals.partition (·.time ≤ time)
  { w with
    clock := max w.clock time
    arrivals := later
    files := due.foldl (fun files a => writeForeign files a.path a.content) w.files }

/-- The point in time that the clock shows. -/
def wallTime (w : World) : WallTime := w.epoch + w.clock * 1000000

/-- The world after a reply. -/
def afterReply (w : World) (client : Client) (request : Request) (reply : Reply) : World :=
  let w := w.advance (w.clock.after reply.took)
  { w with
    files := reply.files.foldl (fun files (path, text) => writeForeign files path text) w.files
    answered := w.answered ++ [(client, request)] }

/-- How a request ends: by its reply, or by the client's limit on its time. -/
def send (w : World) (client : Client) (request : Request) :
    Except TransportFault Response × World :=
  match w.replies with
  | [] => (.error .notSent, w)
  | reply :: rest =>
    let w := { w with replies := rest }
    if client.timeout < reply.took then
      (.error .notSent, w.advance (w.clock.after client.timeout))
    else (reply.answer, w.afterReply client request reply)

/-- What an effect does. -/
def answer (w : World) : (effect : Effect) → effect.Answer × World
  | .now => (w.wallTime, w)
  | .keep session => ((), { w with session })
  | .file call =>
    let (answer, files) := w.files.answer call
    (answer, { w with files })
  | .sleep d => ((), w.advance (w.clock.after d))
  | .send client request => w.send client request
  | .store token =>
    let (result, store, files) := w.store.write token w.files
    (result, { w with store, files })

/-- Takes the access token away, if there is one. -/
def deleteToken (w : World) : Except Failure Unit × World :=
  let (result, store, files) := w.store.delete w.files
  (result, { w with store, files })

/-- The access token that is to be had. -/
def token (w : World) : Except Failure Bytes := w.store.read w.files

end World

namespace Exchange

variable {α : Type}

/-- Runs an exchange to its end. -/
def run (p : Exchange α) (w : World) : Outcome α × World := Program.run World.answer p w

/-- What is left of an exchange that is dropped at an instant: the effects that had ended by
then. -/
def droppedAt (limit : Instant) : Program Effect Effect.Answer (Outcome α) → World → World
  | .done _, w => w.advance limit
  | .perform effect next, w =>
    let (answer, after) := w.answer effect
    if limit < after.clock then
      { w.advance limit with replies := after.replies, answered := after.answered }
    else droppedAt limit (next answer) after

/-- The course that an exchange takes. -/
def course (p : Exchange α) (w : World) : Course World α :=
  let (outcome, after) := p.run w
  { finish := some { time := after.clock, outcome, world := after, dropped := false }
    droppedAt := fun limit => droppedAt limit p w }

end Exchange

/-- Authentications as attempts. -/
def Authenticator.attempt (a : Authenticator) : Attempt World Unit := fun start w =>
  let w := w.advance start
  (a.authenticate w.session).course w

end WorkloadIdentity
