import EventLog.Cache
import EventLog.Tally

/-!
# Sessions

A session works on buffers through named handles and keeps named caches. A handle reaches one
storage; sharing makes another handle reach the same one, and what is done through either is seen
through both. Every handle reaches a storage of its own until it is made to share another's, so a
storage goes by the name of its first handle.
-/

namespace EventLog

/-- The handles, storages and caches of a session. -/
structure Session where
  /-- The storage that a handle reaches. -/
  storageOf : String → String := id
  storage : String → Buffer := fun _ => {}
  cache : String → Cache := fun _ => {}

/-- One step of a session. Every step names the handle that it goes through. -/
inductive Action where
  | push (handle : String) (record : Record)
  | pushPage (handle : String) (page : List Record) (cursor : Option String)
  | clear (handle : String)
  /-- Makes another handle reach the storage of a handle. -/
  | share (handle other : String)
  | snapshot (handle : String)
  | versionedSnapshot (handle : String)
  | tally (handle : String)
  | refresh (handle cache : String) (filter : Filter) (keys : StepKeys)
  /-- Asks about a version given in full. -/
  | isStale (cache : String) (filter : Filter) (keys : StepKeys) (version : Version)
  | invalidate (cache : String)

/-- What a step answers. -/
inductive Answer where
  | nothing
  | records (records : List Record)
  | versioned (version : Version) (records : List Record)
  | tally (tally : Tally)
  | verdict (yes : Bool)

namespace Session

def buffer (session : Session) (handle : String) : Buffer :=
  session.storage (session.storageOf handle)

def modify (session : Session) (handle : String) (change : Buffer → Buffer) : Session :=
  let reached := session.storageOf handle
  { session with
    storage := fun name =>
      if name = reached then change (session.storage reached) else session.storage name }

def setCache (session : Session) (name : String) (cache : Cache) : Session :=
  { session with cache := fun other => if other = name then cache else session.cache other }

def step (conventions : Conventions) (session : Session) : Action → Session × Answer
  | .push handle record => (session.modify handle (·.push record), .nothing)
  | .pushPage handle page cursor => (session.modify handle (·.pushPage page cursor), .nothing)
  | .clear handle => (session.modify handle (·.clear), .nothing)
  | .share handle other =>
      let reached := session.storageOf handle
      ({ session with
          storageOf := fun name => if name = other then reached else session.storageOf name },
        .nothing)
  | .snapshot handle => (session, .records (session.buffer handle).records)
  | .versionedSnapshot handle =>
      let buffer := session.buffer handle
      (session, .versioned buffer.version buffer.records)
  | .tally handle =>
      (session, .tally (Tally.ofRecords conventions (session.buffer handle).records))
  | .refresh handle name filter keys =>
      let (cache, renewed) :=
        (session.cache name).refresh conventions (session.buffer handle) filter keys
      (session.setCache name cache, .verdict renewed)
  | .isStale name filter keys version =>
      (session, .verdict ((session.cache name).isStale filter keys version))
  | .invalidate name => (session.setCache name (session.cache name).invalidate, .nothing)

/-- Carries out steps in order, and gives the session that they lead to. -/
def run (conventions : Conventions) (session : Session) (actions : List Action) : Session :=
  actions.foldl (fun state action => (state.step conventions action).1) session

theorem buffer_modify_of_same (session : Session) {handle other : String}
    (shared : session.storageOf other = session.storageOf handle) (change : Buffer → Buffer) :
    (session.modify handle change).buffer other = change (session.buffer other) := by
  simp [buffer, modify, shared]

end Session

end EventLog
