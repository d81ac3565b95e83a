import NegativaMl.TraceeMemory
import NegativaMl.Elf

/-!
# One supervisor thread of the tracer

A pass of the loop of `Tracer::trace_multi_processes` is a function of what
the traced process shows at one wait: it returns the paths it sent, the pid
whose supervisor it spawned, and whether the loop goes on, breaks or panics.
Only a stop by a signal other than `SIGTRAP` sets the signal of the next
`ptrace::cont`, so every `SIGTRAP` stop is swallowed, also one the breakpoint
did not raise.
-/

namespace NegativaMl

structure Signal where
  number : Nat
  deriving DecidableEq, Repr

def Signal.sigtrap : Signal := ⟨5⟩

def Signal.sigkill : Signal := ⟨9⟩

def Signal.sigterm : Signal := ⟨15⟩

def ptraceEventFork : Nat := 1

def ptraceEventVfork : Nat := 2

def ptraceEventClone : Nat := 3

def ptraceEventExec : Nat := 4

def rtConsistent : Nat := 0

/-- `nix::sys::wait::WaitStatus`, with pids and exit codes as numbers. -/
inductive WaitStatus
  | exited (pid : Nat) (code : Int)
  | signaled (pid : Nat) (signal : Signal) (coreDumped : Bool)
  | stopped (pid : Nat) (signal : Signal)
  | ptraceEvent (pid : Nat) (signal : Signal) (event : Nat)
  | ptraceSyscall (pid : Nat)
  | continued (pid : Nat)
  | stillAlive
  deriving DecidableEq, Repr

/-- A line of `/proc/<pid>/maps` as `proc_maps::MapRange` gives it: where the
mapping starts and the file it maps, if any. -/
structure MapRange where
  start : Nat
  filename : Option String
  deriving DecidableEq, Repr

/-- The fields of `Tracer` the supervisors read: the link-time addresses of
`_dl_debug_state` and `_r_debug` in the loader, and the loader's path. -/
structure Tracer where
  dlDebugStateAddr : Nat
  rDebugAddr : Nat
  loaderPath : String
  deriving DecidableEq, Repr

/-- `Tracer::new` on the loader's bytes `data`, parsed as `parsedElf`: the
addresses `get_symbol_addr` gives `_dl_debug_state` and `_r_debug`, and the
byte of `data` at the offset `get_symbol_offset` gives `_dl_debug_state`, which
no later code reads but whose index panics outside the file.  `none` is a
panic of one of its `expect`s. -/
def Tracer.new (loaderPath : String) (data : List UInt8) (parsedElf : ElfFile) :
    Option Tracer := do
  let loaderElf ← ELF64.new parsedElf
  let dlDebugStateAddr ← (← loaderElf.getSymbolAddr ELF64.dlDebugStateName)
  let rDebugAddr ← (← loaderElf.getSymbolAddr ELF64.rDebugName)
  let dlDebugStateOffset ← (← loaderElf.getSymbolOffset ELF64.dlDebugStateName)
  let _dlDebugStateFirstByte ← data[dlDebugStateOffset]?
  pure ⟨dlDebugStateAddr, rDebugAddr, loaderPath⟩

/-- On a loader whose two symbols the search finds, with values from Δ to
below `2^63`, and whose file reaches the offset of `_dl_debug_state`,
`Tracer::new` keeps the symbols' link-time values: the addresses each
supervisor adds the loader's base to. -/
theorem Tracer.new_of_loader {loaderPath : String} {data : List UInt8} {parsedElf : ElfFile}
    {exec : ProgramHeader} {dlDebugState rDebug : Symbol}
    (hexec : parsedElf.executableSegment = some exec) (hdisp : exec.pOffset ≤ exec.pVaddr)
    (hvaddr : exec.pVaddr < 2 ^ 63)
    (hdlDebugState : ELF64.FirstMatch parsedElf ELF64.dlDebugStateName dlDebugState)
    (hrDebug : ELF64.FirstMatch parsedElf ELF64.rDebugName rDebug)
    (hdlValue : exec.pVaddr - exec.pOffset ≤ dlDebugState.stValue)
    (hdlValue' : dlDebugState.stValue < 2 ^ 63)
    (hrValue : exec.pVaddr - exec.pOffset ≤ rDebug.stValue) (hrValue' : rDebug.stValue < 2 ^ 63)
    (hbyte : dlDebugState.stValue - (exec.pVaddr - exec.pOffset) < data.length) :
    Tracer.new loaderPath data parsedElf =
      some ⟨dlDebugState.stValue, rDebug.stValue, loaderPath⟩ := by
  simp only [Tracer.new, ELF64.new_of_displacement hexec hdisp hvaddr,
    ELF64.getSymbolAddr_of_displacement hdlDebugState hdlValue hdlValue',
    ELF64.getSymbolAddr_of_displacement hrDebug hrValue hrValue',
    ELF64.getSymbolOffset_of_displacement hdlDebugState hdlValue (by omega),
    List.getElem?_eq_getElem hbyte, Option.bind_eq_bind, Option.some_bind, Option.pure_def]

theorem Tracer.new_loaderElf :
    Tracer.new "/lib64/ld-linux-x86-64.so.2" (List.replicate 0x2000 0) ELF64.loaderElf =
      some ⟨0x1a20, 0x3e00, "/lib64/ld-linux-x86-64.so.2"⟩ :=
  @Tracer.new_of_loader "/lib64/ld-linux-x86-64.so.2" (List.replicate 0x2000 0) ELF64.loaderElf
    ⟨ptLoad, pfR ||| pfX, 0x1000, 0x1000, 0x1000⟩ ⟨1, 0x1a20⟩ ⟨17, 0x3e00⟩ rfl (by decide) (by decide)
    (.inl ⟨_, rfl, [⟨0, 0⟩], [⟨17, 0x3e00⟩], rfl, rfl,
      List.forall_mem_singleton.mpr ⟨[], rfl, by decide⟩⟩)
    (.inl ⟨_, rfl, [⟨0, 0⟩, ⟨1, 0x1a20⟩], [], rfl, rfl,
      List.forall_mem_cons.mpr ⟨⟨[], rfl, by decide⟩,
        List.forall_mem_singleton.mpr ⟨ELF64.dlDebugStateName, rfl, by decide⟩⟩⟩)
    (by decide) (by decide) (by decide) (by decide) (by rw [List.length_replicate]; decide)

/-- What the traced process shows a supervisor at one wait: the status
`waitpid` returns (`none` when `ptrace::cont` or `waitpid` fails and the
thread's `expect` panics), `rip` as `ptrace::getregs` reads it, the tracee's
memory and mappings, and the pid of a new child as `ptrace::getevent` reports
it (`none` when that call, or the wait for the child or its detach, fails). -/
structure Observation where
  status : Option WaitStatus
  rip : Nat
  memory : TraceeMemory
  maps : List MapRange
  eventPid : Option Nat

/-- The locals of a supervisor's loop: its tracee, the armed absolute
addresses of `_dl_debug_state` and `_r_debug`, and the signal the next
`ptrace::cont` delivers. -/
structure Supervisor where
  tracePid : Nat
  dlDebugStateAbsAddr : Nat
  rDebugAbsAddr : Nat
  contSignal : Option Signal
  deriving DecidableEq, Repr

def loaderBaseAddr (maps : List MapRange) (loaderPath : String) : Option Nat :=
  (maps.find? fun m => m.filename == some loaderPath).map MapRange.start

/-- Find the loader in `maps`, add its base to the link-time addresses of
`_dl_debug_state` and `_r_debug`, and write `0xcc` over the first byte of
`_dl_debug_state`: the thread does this once it has attached, and again after
each exec. -/
def Tracer.arm (tracer : Tracer) (maps : List MapRange) (memory : TraceeMemory) :
    Option (Nat × Nat) := do
  let loaderBaseAddr ← loaderBaseAddr maps tracer.loaderPath
  let dlDebugStateAbsAddr ← checkedAdd tracer.dlDebugStateAddr loaderBaseAddr
  let rDebugAbsAddr ← checkedAdd tracer.rDebugAddr loaderBaseAddr
  let _ ← setFirstByteAtAddr memory dlDebugStateAbsAddr 0xcc
  pure (dlDebugStateAbsAddr, rDebugAbsAddr)

/-- The thread `trace_multi_processes` spawns for `trace_pid`, up to its loop:
attach and wait (`observation.status` is `none` when either fails), arm the
breakpoint, and enter the loop with no signal pending. -/
def Tracer.start (tracer : Tracer) (tracePid : Nat) (observation : Observation) :
    Option Supervisor := do
  let _ ← observation.status
  let (dlDebugStateAbsAddr, rDebugAbsAddr) ← tracer.arm observation.maps observation.memory
  pure { tracePid, dlDebugStateAbsAddr, rDebugAbsAddr, contSignal := none }

def sampleTracer : Tracer := ⟨0x1000, 0x30000, "/lib64/ld-linux-x86-64.so.2"⟩

def attachedTracee : Observation :=
  ⟨some (.stopped 4242 ⟨19⟩), 0, .ofSegments [(0x7f0000001000, List.replicate 8 0xc3)],
    [⟨0x7f0000000000, some "/lib64/ld-linux-x86-64.so.2"⟩], none⟩

def armedSupervisor : Supervisor := ⟨4242, 0x7f0000001000, 0x7f0000030000, none⟩

/-! ## The link-map walk -/

/-- The fields of `RDebug` the walk reads, from the five words `read_as`
returns: `r_map` is the second word and `r_state`, a `c_int`, the low half of
the fourth. -/
structure RDebug where
  rMap : Nat
  rState : Nat

def RDebug.ofWords (words : List Nat) : RDebug :=
  ⟨words.getD 1 0, words.getD 3 0 % 2 ^ 32⟩

/-- The fields of `LinkMap` the walk reads: `l_name` is the second of its five
words and `l_next` the fourth. -/
structure LinkMap where
  lName : Nat
  lNext : Nat

def LinkMap.ofWords (words : List Nat) : LinkMap :=
  ⟨words.getD 1 0, words.getD 3 0⟩

/-- The walk from `link_map_addr` to a null `l_next`: read each entry, read its
`l_name` with `read_string`, and send it.  It returns the paths sent, in
order, with how the walk ended; nothing bounds the list, so the walk runs on
a budget, and so does each `read_string`. -/
def linkMapWalk (memory : TraceeMemory) (fuel : Nat) : Nat → Nat → List String × Exec Unit
  | 0, _ => ([], .fuelOut)
  | steps + 1, linkMapAddr =>
    if linkMapAddr = 0 then ([], .done ())
    else match readAs memory linkMapAddr 5 with
      | none => ([], .panic)
      | some words =>
        let linkMap := LinkMap.ofWords words
        match readString memory linkMap.lName fuel with
        | .done soPath =>
          let walk := linkMapWalk memory fuel steps linkMap.lNext
          (soPath :: walk.1, walk.2)
        | .panic => ([], .panic)
        | .fuelOut => ([], .fuelOut)

/-! ## The loader's list in memory -/

theorem mapM_eq_some_map {α β : Type} {f : α → Option β} {g : α → β} :
    ∀ {l : List α}, (∀ a ∈ l, f a = some (g a)) → l.mapM f = some (l.map g)
  | [], _ => rfl
  | a :: l, h => by
    rw [List.mapM_cons, h a (List.mem_cons_self _ _),
      mapM_eq_some_map fun b hb => h b (List.mem_cons_of_mem _ hb)]
    rfl

theorem readAs_of_readBytes {memory : TraceeMemory} {absAddr n : Nat} {bytes : List UInt8}
    (hfit : absAddr + n * wordSize ≤ 2 ^ 64)
    (h : memory.readBytes absAddr (n * wordSize) = some bytes) :
    readAs memory absAddr n =
      some ((List.range n).map fun i => fromNeBytes ((bytes.drop (i * wordSize)).take wordSize)) :=
  mapM_eq_some_map fun i hi => by
    have hle : i * wordSize + wordSize ≤ n * wordSize := by
      simpa [Nat.succ_mul] using Nat.mul_le_mul_right wordSize (List.mem_range.mp hi)
    have hw : 0 < wordSize := by decide
    rw [checkedAdd_of_lt (by omega)]
    exact TraceeMemory.ptraceRead_of_readBytes h hle

/-- `r_debug` at `addr`: `r_map` is the word at offset 8, and `r_state`, a
`c_int`, the four bytes at offset 24. -/
def RDebugAt (memory : TraceeMemory) (addr : Nat) (rDebug : RDebug) : Prop :=
  addr + 5 * wordSize ≤ 2 ^ 64 ∧ ∃ bytes, memory.readBytes addr (5 * wordSize) = some bytes ∧
    fromNeBytes ((bytes.drop 8).take wordSize) = rDebug.rMap ∧
    fromNeBytes ((bytes.drop 24).take 4) = rDebug.rState

/-- A `link_map` at `addr`: `l_name` is the word at offset 8 and `l_next` the
word at offset 24. -/
def LinkMapAt (memory : TraceeMemory) (addr : Nat) (linkMap : LinkMap) : Prop :=
  addr + 5 * wordSize ≤ 2 ^ 64 ∧ ∃ bytes, memory.readBytes addr (5 * wordSize) = some bytes ∧
    fromNeBytes ((bytes.drop 8).take wordSize) = linkMap.lName ∧
    fromNeBytes ((bytes.drop 24).take wordSize) = linkMap.lNext

/-- The loader's list from `head` as it lies in memory: a `link_map` per
entry, whose `l_name` points at the entry's stored name and whose `l_next` is
the next entry, and a null `l_next` after the last. -/
def LinkMapList (memory : TraceeMemory) : Nat → List CName → Prop
  | head, [] => head = 0
  | head, name :: names => head ≠ 0 ∧ ∃ linkMap, LinkMapAt memory head linkMap ∧
      name.StoredAt memory linkMap.lName ∧ LinkMapList memory linkMap.lNext names

section LinkMapList

variable {memory : TraceeMemory} {addr : Nat}

theorem RDebugAt.readAs {rDebug : RDebug} (h : RDebugAt memory addr rDebug) :
    ∃ words, readAs memory addr 5 = some words ∧ RDebug.ofWords words = rDebug := by
  obtain ⟨hfit, bytes, hbytes, hmap, hstate⟩ := h
  have hstate' : fromNeBytes ((bytes.drop 24).take wordSize) % 2 ^ 32 = rDebug.rState := by
    rw [← hstate, show (2 : Nat) ^ 32 = 256 ^ 4 from rfl, ← fromNeBytes_take, List.take_take]
    rfl
  refine ⟨_, readAs_of_readBytes hfit hbytes, ?_⟩
  cases rDebug
  subst hmap hstate'
  rfl

theorem LinkMapAt.readAs {linkMap : LinkMap} (h : LinkMapAt memory addr linkMap) :
    ∃ words, readAs memory addr 5 = some words ∧ LinkMap.ofWords words = linkMap := by
  obtain ⟨hfit, bytes, hbytes, hname, hnext⟩ := h
  refine ⟨_, readAs_of_readBytes hfit hbytes, ?_⟩
  cases linkMap
  subst hname hnext
  rfl

/-- On the loader's list, a walk with more steps than entries, and a budget
for each name, sends the names' texts in order and ends. -/
theorem linkMapWalk_of_list {names : List CName} :
    ∀ {head : Nat}, LinkMapList memory head names → ∃ minFuel, ∀ fuel steps,
      minFuel ≤ fuel → names.length < steps →
        linkMapWalk memory fuel steps head = (names.map CName.text, .done ()) := by
  induction names with
  | nil =>
    intro head hnull
    refine ⟨0, fun fuel steps _ hsteps => ?_⟩
    obtain ⟨steps, rfl⟩ : ∃ rest, steps = rest + 1 := ⟨steps - 1, by simp at hsteps; omega⟩
    simp only [linkMapWalk, if_pos (show head = 0 from hnull), List.map_nil]
  | cons name names ih =>
    rintro head ⟨hne, linkMap, hat, hstored, hrest⟩
    obtain ⟨words, hwords, hlinkMap⟩ := hat.readAs
    obtain ⟨nameFuel, hname⟩ := CName.readString_of_storedAt hstored
    obtain ⟨restFuel, hwalk⟩ := ih hrest
    refine ⟨max nameFuel restFuel, fun fuel steps hfuel hsteps => ?_⟩
    obtain ⟨steps, rfl⟩ : ∃ rest, steps = rest + 1 := ⟨steps - 1, by simp at hsteps; omega⟩
    rw [linkMapWalk, if_neg hne, hwords]
    simp only [hlinkMap, hname fuel ((Nat.max_le.mp hfuel).1),
      hwalk fuel steps ((Nat.max_le.mp hfuel).2) (by simpa using hsteps), List.map_cons]

end LinkMapList

/-! ## A pass of the wait loop -/

/-- What one pass of the wait loop did: the paths it sent, in order, the pid
whose supervisor it spawned, and how it ended: `done (some next)` loops again
from `next`, `done none` breaks. -/
structure Pass where
  sent : List String
  spawned : Option Nat
  ending : Exec (Option Supervisor)

/-- The `SIGTRAP` arm: `rip - 1` at the armed `_dl_debug_state` is the
breakpoint, and there, when `r_debug` is consistent, the link map is walked.
Any other `SIGTRAP` is dropped. -/
def Supervisor.onTrap (supervisor : Supervisor) (fuel : Nat) (observation : Observation) :
    Pass :=
  match checkedSub observation.rip 1 with
  | none => ⟨[], none, .panic⟩
  | some curAddr =>
    if curAddr = supervisor.dlDebugStateAbsAddr then
      match readAs observation.memory supervisor.rDebugAbsAddr 5 with
      | none => ⟨[], none, .panic⟩
      | some words =>
        let rDebug := RDebug.ofWords words
        if rDebug.rState = rtConsistent then
          let walk := linkMapWalk observation.memory fuel fuel rDebug.rMap
          ⟨walk.1, none, walk.2 >>= fun _ => pure (some supervisor)⟩
        else ⟨[], none, .done (some supervisor)⟩
    else ⟨[], none, .done (some supervisor)⟩

/-- One pass of the loop of `trace_multi_processes` after `ptrace::cont` and
`waitpid`: `cont_signal` is reset to `None`, then the arms of the match, in
the source's order. -/
def Tracer.pass (tracer : Tracer) (fuel : Nat) (supervisor : Supervisor)
    (observation : Observation) : Pass :=
  match observation.status with
  | none => ⟨[], none, .panic⟩
  | some status =>
    let supervisor := { supervisor with contSignal := none }
    match status with
    | .stopped _ signal =>
      if signal = .sigtrap then supervisor.onTrap fuel observation
      else ⟨[], none, .done (some { supervisor with contSignal := some signal })⟩
    | .ptraceEvent _ signal event =>
      if signal = .sigtrap ∧
          (event = ptraceEventClone ∨ event = ptraceEventFork ∨ event = ptraceEventVfork) then
        match observation.eventPid with
        | some pid => ⟨[], some pid, .done (some supervisor)⟩
        | none => ⟨[], none, .panic⟩
      else if signal = .sigtrap ∧ event = ptraceEventExec then
        match tracer.arm observation.maps observation.memory with
        | some (dlDebugStateAbsAddr, rDebugAbsAddr) =>
          ⟨[], none, .done (some { supervisor with dlDebugStateAbsAddr, rDebugAbsAddr })⟩
        | none => ⟨[], none, .panic⟩
      else ⟨[], none, .done (some supervisor)⟩
    | .exited _ _ => ⟨[], none, .done none⟩
    | .signaled _ signal coreDumped =>
      if (signal = .sigkill ∨ signal = .sigterm) ∧ coreDumped = false then ⟨[], none, .done none⟩
      else ⟨[], none, .done (some supervisor)⟩
    | _ => ⟨[], none, .done (some supervisor)⟩

/-- At the breakpoint, with `r_debug` consistent, a pass walks the loader's
list as it lies in memory: given the budget to reach each name's zero word, it
sends the entries' names in order and loops again with no signal pending. -/
theorem Tracer.pass_at_breakpoint {tracer : Tracer} {supervisor : Supervisor}
    {observation : Observation} {pid : Nat} {rDebug : RDebug} {names : List CName}
    (hstatus : observation.status = some (.stopped pid .sigtrap))
    (hrip : observation.rip = supervisor.dlDebugStateAbsAddr + 1)
    (hrDebug : RDebugAt observation.memory supervisor.rDebugAbsAddr rDebug)
    (hconsistent : rDebug.rState = rtConsistent)
    (hlist : LinkMapList observation.memory rDebug.rMap names) :
    ∃ minFuel, ∀ fuel, minFuel ≤ fuel → tracer.pass fuel supervisor observation =
      ⟨names.map CName.text, none, .done (some { supervisor with contSignal := none })⟩ := by
  obtain ⟨words, hwords, rfl⟩ := hrDebug.readAs
  obtain ⟨walkFuel, hwalk⟩ := linkMapWalk_of_list hlist
  have hcurAddr : checkedSub observation.rip 1 = some supervisor.dlDebugStateAbsAddr := by
    simp [checkedSub, hrip]
  refine ⟨max walkFuel (names.length + 1), fun fuel hfuel => ?_⟩
  simp [Tracer.pass, hstatus, Supervisor.onTrap, hcurAddr, hwords, hconsistent,
    hwalk fuel fuel ((Nat.max_le.mp hfuel).1) ((Nat.max_le.mp hfuel).2)]

def libmName : CName :=
  ⟨[0x2f, 0x6c, 0x69, 0x62, 0x2f, 0x6c, 0x69, 0x62, 0x6d, 0x2e, 0x73, 0x6f, 0x2e, 0x36],
    "/lib/libm.so.6", by decide, by with_unfolding_all rfl⟩

def libcName : CName :=
  ⟨[0x2f, 0x6c, 0x69, 0x62, 0x2f, 0x6c, 0x69, 0x62, 0x63, 0x2e, 0x73, 0x6f, 0x2e, 0x36],
    "/lib/libc.so.6", by decide, by with_unfolding_all rfl⟩

/-- The tracee at the breakpoint with two libraries loaded: `r_debug` at
`0x7f0000030000` is consistent and its list holds libm, then libc, each
`link_map` pointing back at the one before. -/
def twoLibrariesLoaded : Observation :=
  ⟨some (.stopped 4242 .sigtrap), 0x7f0000001001,
    .ofSegments
      [(0x7f0000030000, wordBytes 1 ++ wordBytes 0x7f0000040000 ++ wordBytes 0 ++ wordBytes 0 ++
          wordBytes 0),
        (0x7f0000040000, wordBytes 0 ++ wordBytes 0x7f0000050000 ++ wordBytes 0 ++
          wordBytes 0x7f0000040100 ++ wordBytes 0),
        (0x7f0000040100, wordBytes 0 ++ wordBytes 0x7f0000050100 ++ wordBytes 0 ++ wordBytes 0 ++
          wordBytes 0x7f0000040000),
        (0x7f0000050000, libmName.bytes ++ List.replicate 8 0),
        (0x7f0000050100, libcName.bytes ++ List.replicate 8 0)],
    [], none⟩

theorem Tracer.pass_twoLibrariesLoaded :
    twoLibrariesLoaded.status = some (.stopped 4242 .sigtrap) ∧
      twoLibrariesLoaded.rip = armedSupervisor.dlDebugStateAbsAddr + 1 ∧
      RDebugAt twoLibrariesLoaded.memory armedSupervisor.rDebugAbsAddr ⟨0x7f0000040000, 0⟩ ∧
      LinkMapList twoLibrariesLoaded.memory 0x7f0000040000 [libmName, libcName] ∧
      ∃ minFuel, ∀ fuel, minFuel ≤ fuel →
        sampleTracer.pass fuel armedSupervisor twoLibrariesLoaded =
          ⟨["/lib/libm.so.6", "/lib/libc.so.6"], none, .done (some armedSupervisor)⟩ :=
  have hrDebug : RDebugAt twoLibrariesLoaded.memory armedSupervisor.rDebugAbsAddr
      ⟨0x7f0000040000, 0⟩ := ⟨by decide, _, rfl, rfl, rfl⟩
  have hlist : LinkMapList twoLibrariesLoaded.memory 0x7f0000040000 [libmName, libcName] :=
    ⟨by decide, ⟨0x7f0000050000, 0x7f0000040100⟩, ⟨by decide, _, rfl, rfl, rfl⟩,
      ⟨14, _, by decide, rfl, by decide, rfl⟩,
      by decide, ⟨0x7f0000050100, 0⟩, ⟨by decide, _, rfl, rfl, rfl⟩,
      ⟨14, _, by decide, rfl, by decide, rfl⟩, rfl⟩
  ⟨rfl, rfl, hrDebug, hlist, Tracer.pass_at_breakpoint rfl rfl hrDebug rfl hlist⟩

/-! ## The signal each `ptrace::cont` delivers -/

/-- The signal the next `ptrace::cont` delivers after a pass that loops again:
the stop's signal, unless it is `SIGTRAP`, and none after any other status. -/
def resumeSignal : WaitStatus → Option Signal
  | .stopped _ signal => if signal = .sigtrap then none else some signal
  | _ => none

theorem Supervisor.onTrap_loops {supervisor next : Supervisor} {fuel : Nat}
    {observation : Observation}
    (h : (supervisor.onTrap fuel observation).ending = .done (some next)) : next = supervisor := by
  unfold Supervisor.onTrap at h
  split at h
  · cases h
  split_ifs at h
  · split at h
    · cases h
    dsimp only at h
    split_ifs at h
    · obtain ⟨_, -, h⟩ := Exec.bind_eq_done.mp h
      cases h; rfl
    · cases h; rfl
  · cases h; rfl

theorem Tracer.contSignal_of_pass {tracer : Tracer} {fuel : Nat} {supervisor next : Supervisor}
    {observation : Observation}
    (h : (tracer.pass fuel supervisor observation).ending = .done (some next)) :
    ∃ status, observation.status = some status ∧ next.contSignal = resumeSignal status := by
  unfold Tracer.pass at h
  split at h
  · cases h
  rename_i status hstatus
  refine ⟨status, hstatus, ?_⟩
  cases status with
  | stopped pid signal =>
    dsimp only at h
    by_cases htrap : signal = .sigtrap
    · rw [if_pos htrap] at h
      rw [Supervisor.onTrap_loops h, resumeSignal, if_pos htrap]
    · rw [if_neg htrap] at h
      cases h
      exact (if_neg htrap).symm
  | ptraceEvent pid signal event =>
    dsimp only at h
    split_ifs at h
    · split at h <;> cases h; rfl
    · split at h <;> cases h; rfl
    · cases h; rfl
  | signaled pid signal coreDumped =>
    dsimp only at h
    split_ifs at h <;> cases h; rfl
  | exited => cases h
  | ptraceSyscall | continued | stillAlive => cases h; rfl

/-- The signals the loop passes to `ptrace::cont`, pass after pass, for as
long as it loops: the pending one, then one after each status it gets
through. -/
def Tracer.contSignals (tracer : Tracer) (fuel : Nat) (supervisor : Supervisor) :
    List Observation → List (Option Signal)
  | [] => [supervisor.contSignal]
  | observation :: observations =>
    supervisor.contSignal :: match (tracer.pass fuel supervisor observation).ending with
      | .done (some next) => tracer.contSignals fuel next observations
      | _ => []

@[simp] theorem Tracer.contSignals_getElem?_zero (tracer : Tracer) (fuel : Nat)
    (supervisor : Supervisor) (observations : List Observation) :
    (tracer.contSignals fuel supervisor observations)[0]? = some supervisor.contSignal := by
  cases observations <;> simp [Tracer.contSignals]

/-- Over any run, the `ptrace::cont` after the `k`-th status delivers
`resumeSignal` of it: the stop's signal unless that is `SIGTRAP`, and no
signal after an event. -/
theorem Tracer.contSignals_succ_eq_resumeSignal (tracer : Tracer) (fuel : Nat) :
    ∀ (observations : List Observation) (supervisor : Supervisor) (k : Nat)
      (signal : Option Signal),
      (tracer.contSignals fuel supervisor observations)[k + 1]? = some signal →
      ∃ observation status, observations[k]? = some observation ∧
        observation.status = some status ∧ signal = resumeSignal status
  | [], _, _, _, h => by simp [Tracer.contSignals] at h
  | observation :: observations, supervisor, k, signal, h => by
    simp only [Tracer.contSignals, List.getElem?_cons_succ] at h
    split at h
    · rename_i next hnext
      obtain ⟨status, hstatus, hsignal⟩ := Tracer.contSignal_of_pass hnext
      cases k with
      | zero =>
        rw [Tracer.contSignals_getElem?_zero, Option.some.injEq] at h
        exact ⟨observation, status, List.getElem?_cons_zero, hstatus, h ▸ hsignal⟩
      | succ k =>
        simpa only [List.getElem?_cons_succ] using
          Tracer.contSignals_succ_eq_resumeSignal tracer fuel observations next k signal h
    · simp at h

def usr1Stop : Observation := ⟨some (.stopped 4242 ⟨10⟩), 0, ⟨fun _ => none⟩, [], none⟩

theorem Tracer.contSignals_usr1Stop :
    (sampleTracer.contSignals 64 armedSupervisor [usr1Stop])[0 + 1]? = some (some ⟨10⟩) ∧
      ∃ observation status, [usr1Stop][0]? = some observation ∧
        observation.status = some status ∧ some ⟨10⟩ = resumeSignal status :=
  ⟨rfl, Tracer.contSignals_succ_eq_resumeSignal sampleTracer 64 [usr1Stop] armedSupervisor 0 _ rfl⟩

/-- The tracee then stops with `SIGTRAP` at `0x401001`, the instruction after
an `int3` of its own code, away from the breakpoint. -/
def strayTrap : Observation :=
  ⟨some (.stopped 4242 .sigtrap), 0x401001, ⟨fun _ => none⟩, [], none⟩

/-- The supervisor attaches and arms the breakpoint at `0x7f0000001000`; the
tracee's `SIGTRAP` is not at that address, and still the next `ptrace::cont`
delivers no signal: the tracee never sees its `SIGTRAP`. -/
theorem Tracer.contSignals_strayTrap :
    sampleTracer.start 4242 attachedTracee = some armedSupervisor ∧
      strayTrap.rip - 1 ≠ armedSupervisor.dlDebugStateAbsAddr ∧
      ∀ fuel, sampleTracer.contSignals fuel armedSupervisor [strayTrap] = [none, none] :=
  ⟨by decide, by decide, fun _ => rfl⟩

end NegativaMl
