import NegativaMl.Supervisor
import Mathlib.Data.Finset.Basic

/-!
# The tracer's threads and channel

`Tracer::trace` creates an `mpsc` channel and moves its only `Sender` into the
first supervisor.  Each supervisor sends the paths its link-map walks read,
and on a fork, clone or vfork event it clones its own `Sender` into the
supervisor it spawns for the child, before its own pass goes on.  A thread's
`Sender` is dropped with its closure when its loop breaks or it panics.  The
main thread receives until `recv` fails, that is until the queue is empty and
no `Sender` is left, and turns the paths it keeps into `loaded_sos`.

The interleaving is a step function on the whole session: one step is one
thread's start, one pass, one send or spawn of a pass, the end of a pass, or
one receive of the collector.  Every list of events is a schedule.  The
number of live `Sender`s is always the number of live threads, because a
spawn clones a live one; so the receive loop ends only once every thread is
gone, and by then it has received every path any thread sent.
-/

namespace NegativaMl

/-- What the collector asks of the file system while the tree runs: whether
a path exists, what `canonicalize` makes of it (`none` when it fails and
`unwrap` panics), and the tracer's working directory. -/
structure FileSystem where
  pathExists : String → Bool
  canonicalize : String → Option String
  currentDir : String

namespace FileSystem

variable (fs : FileSystem)

/-- The collector's filters: a path it keeps is not empty, exists, and is not
the kernel detector's. -/
def Keeps (soPath : String) : Prop :=
  soPath ≠ "" ∧ fs.pathExists soPath = true ∧ strContains soPath "libkerneldetector.so" = false

instance : DecidablePred fs.Keeps := fun _ => inferInstanceAs (Decidable (_ ∧ _))

/-- The absolute form the collector inserts: `canonicalize` of an absolute
path, and `current_dir/so_path` for a relative one. -/
def absolutePath (soPath : String) : Option String :=
  if soPath.startsWith "/" then fs.canonicalize soPath else some (fs.currentDir ++ "/" ++ soPath)

/-- One pass of the body of `for so_path in so_reciver`: skip the path, or
insert its absolute form into `loaded_sos` (`none` when `canonicalize` fails
and the main thread panics). -/
def collect (loadedSos : Finset String) (soPath : String) : Option (Finset String) :=
  if soPath = "" then some loadedSos
  else if fs.pathExists soPath = false then some loadedSos
  else if strContains soPath "libkerneldetector.so" then some loadedSos
  else (fs.absolutePath soPath).map fun absSoPath => insert absSoPath loadedSos

def collectAll (paths : List String) : Option (Finset String) :=
  paths.foldlM fs.collect ∅

theorem collect_eq (loadedSos : Finset String) (soPath : String) :
    fs.collect loadedSos soPath =
      if fs.Keeps soPath then (fs.absolutePath soPath).map fun absSoPath => insert absSoPath loadedSos
      else some loadedSos := by
  unfold collect Keeps
  by_cases hempty : soPath = "" <;> by_cases hexists : fs.pathExists soPath = true <;>
    by_cases hdetector : strContains soPath "libkerneldetector.so" = true <;>
    simp [hempty, hexists, hdetector]

variable {fs}

/-- One pass of the collector keeps the absolute form of a kept path, and
adds nothing else. -/
theorem collect_eq_some {loadedSos next : Finset String} {soPath : String}
    (h : fs.collect loadedSos soPath = some next) :
    (fs.Keeps soPath → (fs.absolutePath soPath).isSome) ∧
      ∀ path, path ∈ next ↔
        path ∈ loadedSos ∨ fs.Keeps soPath ∧ fs.absolutePath soPath = some path := by
  rw [collect_eq] at h
  split_ifs at h with hkeeps
  · obtain ⟨absSoPath, habs, rfl⟩ := Option.map_eq_some'.mp h
    exact ⟨fun _ => by simp [habs], fun path => by simp [habs, hkeeps, eq_comm, or_comm]⟩
  · cases h
    exact ⟨fun hk => absurd hk hkeeps, fun path => by simp [hkeeps]⟩

theorem foldlM_collect :
    ∀ {paths : List String} {init loadedSos : Finset String},
      paths.foldlM fs.collect init = some loadedSos →
      (∀ soPath ∈ paths, fs.Keeps soPath → (fs.absolutePath soPath).isSome) ∧
        ∀ path, path ∈ loadedSos ↔
          path ∈ init ∨ ∃ soPath ∈ paths, fs.Keeps soPath ∧ fs.absolutePath soPath = some path
  | [], init, loadedSos, h => by
    cases h
    simp
  | soPath :: paths, init, loadedSos, h => by
    simp only [List.foldlM_cons, Option.bind_eq_bind, Option.bind_eq_some] at h
    obtain ⟨next, hnext, hrest⟩ := h
    obtain ⟨hfirstSome, hfirstMem⟩ := collect_eq_some hnext
    obtain ⟨hsome, hmem⟩ := foldlM_collect hrest
    refine ⟨List.forall_mem_cons.mpr ⟨hfirstSome, hsome⟩, fun path => ?_⟩
    rw [hmem, hfirstMem]
    simp only [List.mem_cons, exists_eq_or_imp, or_assoc]

end FileSystem

/-! ## The session -/

/-- A step a pass performs on shared state, one interleaving step each: a
`send` on the channel, or the spawn of a supervisor for a new child. -/
inductive Action
  | send (soPath : String)
  | spawn (pid : Nat)

def Pass.actions (pass : Pass) : List Action :=
  pass.sent.map .send ++ pass.spawned.toList.map .spawn

/-- A supervisor thread as the interleaving sees it: spawned and not yet
attached, between passes, in a pass with its sends or spawn still to do, or
gone, its closure and so its `Sender` dropped by a `break` or a panic. -/
inductive ThreadState
  | starting (pid : Nat)
  | waiting (supervisor : Supervisor)
  | acting (actions : List Action) (ending : Exec (Option Supervisor))
  | finished

def ThreadState.live : ThreadState → Bool
  | .finished => false
  | _ => true

/-- The main thread's receive loop: still receiving, out of the loop because
`recv` found no `Sender` left, or panicked. -/
inductive CollectorState
  | receiving
  | finished
  | panicked
  deriving DecidableEq, Repr

/-- `Tracer::trace` once it has handed its only `Sender` to the first
supervisor: the threads in the order they were spawned, the channel's queue
and count of live `Sender`s, the collector and `loaded_sos`.  `sent` records
every path any thread has sent; no code reads it. -/
structure Session where
  threads : List ThreadState
  queue : List String
  senders : Nat
  collector : CollectorState
  loadedSos : Finset String
  sent : List String

inductive Event
  | start (thread : Nat) (observation : Observation)
  | pass (thread : Nat) (observation : Observation)
  | act (thread : Nat)
  | endPass (thread : Nat)
  | receive
  | close

namespace Session

/-- The session right after `trace_multi_processes(child, …, so_sender, …)`:
one thread about to attach to `child`, holding the one `Sender`. -/
def initial (child : Nat) : Session := ⟨[.starting child], [], 1, .receiving, ∅, []⟩

/-- Thread `thread` moves to `state`, sends `sent`, and spawns a supervisor
for each pid of `spawned`, each with a clone of its `Sender`; a thread that
ends drops its own. -/
def threadStep (session : Session) (thread : Nat) (state : ThreadState) (sent : List String)
    (spawned : List Nat) : Session :=
  { session with
    threads := session.threads.set thread state ++ spawned.map .starting
    queue := session.queue ++ sent
    senders := session.senders - (if state.live then 0 else 1) + spawned.length
    sent := session.sent ++ sent }

def step (tracer : Tracer) (fs : FileSystem) (fuel : Nat) (session : Session) :
    Event → Option Session
  | .start thread observation =>
    match session.threads[thread]? with
    | some (.starting pid) =>
      some (session.threadStep thread
        (match tracer.start pid observation with
          | some supervisor => .waiting supervisor
          | none => .finished) [] [])
    | _ => none
  | .pass thread observation =>
    match session.threads[thread]? with
    | some (.waiting supervisor) =>
      let pass := tracer.pass fuel supervisor observation
      some (session.threadStep thread (.acting pass.actions pass.ending) [] [])
    | _ => none
  | .act thread =>
    match session.threads[thread]? with
    | some (.acting (.send soPath :: actions) ending) =>
      some (session.threadStep thread (.acting actions ending) [soPath] [])
    | some (.acting (.spawn pid :: actions) ending) =>
      some (session.threadStep thread (.acting actions ending) [] [pid])
    | _ => none
  | .endPass thread =>
    match session.threads[thread]? with
    | some (.acting [] (.done (some supervisor))) =>
      some (session.threadStep thread (.waiting supervisor) [] [])
    | some (.acting [] (.done none)) => some (session.threadStep thread .finished [] [])
    | some (.acting [] .panic) => some (session.threadStep thread .finished [] [])
    | _ => none
  | .receive =>
    match session.collector, session.queue with
    | .receiving, soPath :: queue =>
      some (match fs.collect session.loadedSos soPath with
        | some loadedSos => { session with queue, loadedSos }
        | none => { session with queue, collector := .panicked })
    | _, _ => none
  | .close =>
    if session.collector = .receiving ∧ session.queue = [] ∧ session.senders = 0 then
      some { session with collector := .finished }
    else none

def run (tracer : Tracer) (fs : FileSystem) (fuel : Nat) :
    Session → List Event → Option Session
  | session, [] => some session
  | session, event :: events =>
    (session.step tracer fs fuel event).bind fun next => next.run tracer fs fuel events

/-! ## The channel invariant -/

/-- What every reachable session satisfies: one live `Sender` per live
thread; what the collector has received, followed by the queue, is all that
was sent, and `loaded_sos` is what collecting the received paths gives; and
the collector has left its loop only on an empty queue with no `Sender`. -/
structure Invariant (fs : FileSystem) (session : Session) : Prop where
  senders_eq_live : session.senders = session.threads.countP ThreadState.live
  sent_eq : session.collector ≠ .panicked →
    ∃ received, session.sent = received ++ session.queue ∧
      fs.collectAll received = some session.loadedSos
  closed : session.collector = .finished → session.queue = [] ∧ session.senders = 0

variable {fs : FileSystem} {session : Session}

theorem invariant_initial (child : Nat) : (initial child).Invariant fs :=
  ⟨rfl, fun _ => ⟨[], rfl, rfl⟩, nofun⟩

theorem Invariant.threadStep (hinv : session.Invariant fs) {thread : Nat} {old : ThreadState}
    (hold : session.threads[thread]? = some old) (hlive : old.live = true) (state : ThreadState)
    (sent : List String) (spawned : List Nat) :
    (session.threadStep thread state sent spawned).Invariant fs := by
  obtain ⟨hlt, rfl⟩ := List.getElem?_eq_some_iff.mp hold
  have hcount := List.countP_set ThreadState.live session.threads thread state hlt
  have hold_le := List.boole_getElem_le_countP ThreadState.live session.threads thread hlt
  have hsenders := hinv.senders_eq_live
  rw [hlive, if_pos rfl] at hcount hold_le
  refine ⟨?_, fun hcollector => ?_, fun hcollector => ?_⟩
  · have hspawned : (spawned.map ThreadState.starting).countP ThreadState.live = spawned.length := by
      simp [List.countP_eq_length, ThreadState.live]
    simp only [Session.threadStep, List.countP_append, hcount, hspawned]
    cases state.live <;> simp <;> omega
  · obtain ⟨received, hsent, hcollect⟩ := hinv.sent_eq hcollector
    exact ⟨received, by simp [Session.threadStep, hsent], hcollect⟩
  · have := (hinv.closed hcollector).2
    omega

theorem Invariant.step (hinv : session.Invariant fs) {tracer : Tracer} {fuel : Nat}
    {event : Event} {next : Session} (h : session.step tracer fs fuel event = some next) :
    next.Invariant fs := by
  cases event
  case receive =>
    simp only [Session.step] at h
    split at h
    · rename_i soPath queue hcollector hqueue
      cases h
      obtain ⟨received, hsent, hcollect⟩ := hinv.sent_eq (by simp [hcollector])
      split
      · rename_i loadedSos hloaded
        refine ⟨hinv.senders_eq_live, fun _ => ⟨received ++ [soPath], ?_, ?_⟩,
          fun h => by simp [hcollector] at h⟩
        · simp [hsent, hqueue]
        · simp only [FileSystem.collectAll, List.foldlM_append] at hcollect ⊢
          simpa [hcollect] using hloaded
      · exact ⟨hinv.senders_eq_live, fun h => absurd rfl h, nofun⟩
    · cases h
  case close =>
    simp only [Session.step] at h
    split_ifs at h with hclose
    cases h
    obtain ⟨received, hsent, hcollect⟩ := hinv.sent_eq (by simp [hclose.1])
    exact ⟨hinv.senders_eq_live, fun _ => ⟨received, hsent, hcollect⟩,
      fun _ => ⟨hclose.2.1, hclose.2.2⟩⟩
  -- every other event is a `threadStep` of a thread that is still live
  all_goals
    simp only [Session.step] at h
    split at h <;> cases h <;> exact hinv.threadStep ‹_› (by rfl) _ _ _

theorem Invariant.run (hinv : session.Invariant fs) {tracer : Tracer} {fuel : Nat} :
    ∀ {events : List Event} {final : Session},
      session.run tracer fs fuel events = some final → final.Invariant fs := by
  intro events
  induction events generalizing session with
  | nil => intro final h; cases h; exact hinv
  | cons event events ih =>
    intro final h
    simp only [Session.run, Option.bind_eq_some] at h
    obtain ⟨next, hnext, hrest⟩ := h
    exact ih (hinv.step hnext) hrest

end Session

/-- When the receive loop has ended, the collector has received every path
any thread sent, and `loaded_sos` is what collecting them gives. -/
theorem Session.collectAll_sent_of_finished {tracer : Tracer} {fs : FileSystem}
    {fuel child : Nat} {events : List Event} {session : Session}
    (hrun : (Session.initial child).run tracer fs fuel events = some session)
    (hfinished : session.collector = .finished) :
    fs.collectAll session.sent = some session.loadedSos := by
  have hinv := (Session.invariant_initial child).run hrun
  obtain ⟨received, hsent, hcollect⟩ := hinv.sent_eq (by simp [hfinished])
  rwa [hsent, (hinv.closed hfinished).1, List.append_nil]

/-- When the receive loop has ended, `loaded_sos` holds exactly the absolute
forms of the kept paths the threads sent. -/
theorem Session.mem_loadedSos_of_finished {tracer : Tracer} {fs : FileSystem}
    {fuel child : Nat} {events : List Event} {session : Session}
    (hrun : (Session.initial child).run tracer fs fuel events = some session)
    (hfinished : session.collector = .finished) (path : String) :
    path ∈ session.loadedSos ↔
      ∃ soPath ∈ session.sent, fs.Keeps soPath ∧ fs.absolutePath soPath = some path := by
  simpa using (FileSystem.foldlM_collect (collectAll_sent_of_finished hrun hfinished)).2 path

/-- However the threads and the collector interleave, and whenever each
supervisor was spawned, the receive loop ends only once every supervisor is
gone, and `loaded_sos` is then exactly the absolute forms of the paths any
thread sent that pass the collector's filters: `canonicalize` of an absolute
path, which must not fail, and `current_dir/so_path` of a relative one. -/
theorem Session.collector_finishes_with_every_path {tracer : Tracer} {fs : FileSystem}
    {fuel child : Nat} {events : List Event} {session : Session}
    (hrun : (Session.initial child).run tracer fs fuel events = some session)
    (hfinished : session.collector = .finished) :
    (∀ thread ∈ session.threads, thread = .finished) ∧
      (∀ soPath ∈ session.sent, fs.Keeps soPath → soPath.startsWith "/" = true →
        (fs.canonicalize soPath).isSome) ∧
      ∀ path, path ∈ session.loadedSos ↔ ∃ soPath ∈ session.sent, fs.Keeps soPath ∧
        (if soPath.startsWith "/" then fs.canonicalize soPath
          else some (fs.currentDir ++ "/" ++ soPath)) = some path := by
  have hinv := (Session.invariant_initial child).run hrun
  have hsome := (FileSystem.foldlM_collect (collectAll_sent_of_finished hrun hfinished)).1
  refine ⟨fun thread hthread => ?_, fun soPath hsent hkeeps habs => ?_,
    mem_loadedSos_of_finished hrun hfinished⟩
  · have hnone := List.countP_eq_zero.mp
      (hinv.senders_eq_live.symm.trans (hinv.closed hfinished).2) thread hthread
    cases thread <;> simp_all [ThreadState.live]
  · simpa [FileSystem.absolutePath, habs] using hsome soPath hsent hkeeps

/-- The tracee at the breakpoint: `r_debug` is consistent, and its one link-map
entry names "/lib/libc.so.6". -/
def breakpointHit : Observation :=
  ⟨some (.stopped 4243 .sigtrap), 0x7f0000001001,
    .ofSegments
      [(0x7f0000030000, wordBytes 1 ++ wordBytes 0x7f0000040000 ++ wordBytes 0 ++ wordBytes 0 ++
          wordBytes 0),
        (0x7f0000040000, wordBytes 0 ++ wordBytes 0x7f0000050000 ++ wordBytes 0 ++ wordBytes 0 ++
          wordBytes 0),
        (0x7f0000050000, [0x2f, 0x6c, 0x69, 0x62, 0x2f, 0x6c, 0x69, 0x62, 0x63, 0x2e, 0x73, 0x6f,
          0x2e, 0x36] ++ List.replicate 8 0)],
    [], none⟩

def forkedTracee : Observation :=
  ⟨some (.ptraceEvent 4242 .sigtrap ptraceEventFork), 0, ⟨fun _ => none⟩, [], some 4243⟩

def exitedTracee : Observation := ⟨some (.exited 4242 0), 0, ⟨fun _ => none⟩, [], none⟩

def sampleFileSystem : FileSystem :=
  ⟨fun soPath => decide (soPath = "/lib/libc.so.6"), fun soPath => some ("/usr" ++ soPath),
    "/home/user"⟩

/-- The root tracee forks and exits before its child reaches the breakpoint
and sends its one path; only then does the collector receive it and close. -/
def forkSchedule : List Event :=
  [.start 0 attachedTracee, .pass 0 forkedTracee, .act 0, .endPass 0, .pass 0 exitedTracee,
    .endPass 0, .start 1 attachedTracee, .pass 1 breakpointHit, .act 1, .endPass 1,
    .pass 1 exitedTracee, .endPass 1, .receive, .close]

theorem Session.forkSchedule_collects_every_path :
    ∃ session, (Session.initial 4242).run sampleTracer sampleFileSystem 64 forkSchedule =
        some session ∧ session.collector = .finished ∧
      (∀ thread ∈ session.threads, thread = .finished) ∧
      (∀ soPath ∈ session.sent, sampleFileSystem.Keeps soPath → soPath.startsWith "/" = true →
        (sampleFileSystem.canonicalize soPath).isSome) ∧
      ∀ path, path ∈ session.loadedSos ↔ ∃ soPath ∈ session.sent, sampleFileSystem.Keeps soPath ∧
        (if soPath.startsWith "/" then sampleFileSystem.canonicalize soPath
          else some (sampleFileSystem.currentDir ++ "/" ++ soPath)) = some path := by
  obtain ⟨session, hrun, hfinished⟩ : ∃ session,
      (Session.initial 4242).run sampleTracer sampleFileSystem 64 forkSchedule = some session ∧
        session.collector = .finished :=
    ⟨_, by with_unfolding_all rfl, by rfl⟩
  exact ⟨session, hrun, hfinished, Session.collector_finishes_with_every_path hrun hfinished⟩

end NegativaMl
