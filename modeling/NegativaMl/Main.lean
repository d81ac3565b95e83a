import NegativaMl.Commands
import NegativaMl.TraceSession

/-!
# `trace` and `debloat` of `main.rs`

`Commands` models `locate` and `reconstruct` on a disk of files, and
`TraceSession` the supervisor threads and the collector of `Tracer::trace`.
This module joins them.  `Tracer::trace` turns a session whose receive loop
has ended, together with the kernel detector's log, into the report it writes;
the `trace` command runs it with the tracer `Tracer::new` builds from the
loader on disk; and `debloat` runs `trace` into `<output>/trace.json` and then
`locate` from that report into `<output>/spans`.

The two results follow a library from the traced process to the disk: every
file `debloat` changes is the report or the span file of a library some
supervisor read from a link map, and when `debloat` returns every such library
was located and, when its file name is its own, keeps its span file.
-/

namespace NegativaMl

/-! ## The kernel log -/

/-- The body of the loop over the kernel log: trim the line, and insert it
into `detected_kernels` unless it is empty. -/
def detectKernel (detectedKernels : Finset String) (line : String) : Finset String :=
  if strTrim line = "" then detectedKernels else insert (strTrim line) detectedKernels

def detectedKernelsOf (kernelLog : List String) : Finset String :=
  kernelLog.foldl detectKernel ∅

theorem mem_foldl_detectKernel {kernel : String} :
    ∀ {kernelLog : List String} {init : Finset String},
      kernel ∈ kernelLog.foldl detectKernel init ↔
        kernel ∈ init ∨ ∃ line ∈ kernelLog, strTrim line = kernel ∧ kernel ≠ ""
  | [], _ => by simp
  | line :: kernelLog, init => by
    rw [List.foldl_cons, mem_foldl_detectKernel]
    simp only [List.mem_cons, exists_eq_or_imp, ← or_assoc]
    refine or_congr_left ?_
    by_cases hempty : strTrim line = ""
    · simp only [detectKernel, if_pos hempty, hempty]
      exact ⟨.inl, fun h => h.elim id fun ⟨hkernel, hne⟩ => absurd hkernel.symm hne⟩
    · simp only [detectKernel, if_neg hempty, Finset.mem_insert]
      exact ⟨fun h => h.elim (fun h => .inr ⟨h.symm, h ▸ hempty⟩) .inl,
        fun h => h.elim .inr fun h => .inl h.1.symm⟩

theorem mem_detectedKernelsOf {kernelLog : List String} {kernel : String} :
    kernel ∈ detectedKernelsOf kernelLog ↔ ∃ line ∈ kernelLog, strTrim line = kernel ∧ kernel ≠ "" := by
  simp [detectedKernelsOf, mem_foldl_detectKernel]

/-! ## `Tracer::trace` and the commands -/

/-- What one run of the traced command gives `Tracer::trace`: the pid `fork`
returns for the child, the schedule of the supervisors and the collector
(with what each supervisor observes), what the collector's file-system calls
return, and the lines the kernel detector wrote to its log.  The environment
the child runs with is part of what the schedule records. -/
structure TraceRun where
  child : Nat
  events : List Event
  fileSystem : FileSystem
  kernelLog : List String

/-- `Tracer::trace` in the parent, from the hand-over of the first `Sender`
on: the report of a session whose receive loop has ended, a panic of the
collector, and `fuelOut` when the schedule stops before the receive loop ends
(or is no schedule of the session). -/
def Tracer.trace (tracer : Tracer) (fuel : Nat) (traceRun : TraceRun) : Exec TraceReport :=
  match (Session.initial traceRun.child).run tracer traceRun.fileSystem fuel traceRun.events with
  | some session =>
    match session.collector with
    | .finished => .done ⟨detectedKernelsOf traceRun.kernelLog, session.loadedSos⟩
    | .panicked => .panic
    | .receiving => .fuelOut
  | none => .fuelOut

/-- `Tracer::new(loader_path)` with its read of the loader; `none` is a panic
of the read, of the parse or of `Tracer::new`. -/
def Tracer.newOnDisk (host : Host) (disk : Disk) (loaderPath : String) : Option Tracer := do
  let data ← disk.read host loaderPath
  let parsedElf ← host.parseElf data
  Tracer.new loaderPath data parsedElf

/-- The `trace` command: build the tracer, trace, and write the report to
`output`. -/
def trace (host : Host) (fuel : Nat) (loaderPath output : String) (traceRun : TraceRun)
    (disk : Disk) : Disk × Exec Unit :=
  match Tracer.newOnDisk host disk loaderPath with
  | some tracer =>
    match tracer.trace fuel traceRun with
    | .done report => (disk.write output (.report report), .done ())
    | .panic => (disk, .panic)
    | .fuelOut => (disk, .fuelOut)
  | none => (disk, .panic)

/-- The `debloat` command: `trace` into `<output>/trace.json`, then `locate`
from that report into `<output>/spans`.  It does not run `reconstruct`. -/
def debloat (host : Host) (fuel : Nat) (loaderPath outputDir : String) (traceRun : TraceRun)
    (disk : Disk) : Disk × Exec Unit :=
  match trace host fuel loaderPath (outputDir ++ "/trace.json") traceRun disk with
  | (traced, .done ()) =>
    locate host fuel (outputDir ++ "/trace.json") (outputDir ++ "/spans") traced
  | result => result

/-! ## What each step does -/

section Steps

variable {host : Host} {fuel : Nat} {loaderPath : String} {traceRun : TraceRun} {disk : Disk}

theorem Tracer.trace_eq_done {tracer : Tracer} {report : TraceReport}
    (h : tracer.trace fuel traceRun = .done report) :
    ∃ session, (Session.initial traceRun.child).run tracer traceRun.fileSystem fuel
        traceRun.events = some session ∧
      session.collector = .finished ∧
      report = ⟨detectedKernelsOf traceRun.kernelLog, session.loadedSos⟩ := by
  unfold Tracer.trace at h
  split at h
  · rename_i session hrun
    split at h <;> cases h
    exact ⟨session, hrun, ‹_›, rfl⟩
  · cases h

theorem trace_of_done {output : String} {tracer : Tracer} {report : TraceReport}
    (htracer : Tracer.newOnDisk host disk loaderPath = some tracer)
    (hreport : tracer.trace fuel traceRun = .done report) :
    trace host fuel loaderPath output traceRun disk =
      (disk.write output (.report report), .done ()) := by
  simp only [trace, htracer, hreport]

variable (output : String) in
/-- `trace` leaves the disk as it was without returning, or it built the
tracer, saw the receive loop end, and wrote that session's report to
`output`. -/
theorem trace_cases :
    (∃ result, trace host fuel loaderPath output traceRun disk = (disk, result) ∧
      result ≠ .done ()) ∨
    ∃ tracer session, Tracer.newOnDisk host disk loaderPath = some tracer ∧
      (Session.initial traceRun.child).run tracer traceRun.fileSystem fuel traceRun.events =
        some session ∧
      session.collector = .finished ∧
      trace host fuel loaderPath output traceRun disk =
        (disk.write output (.report ⟨detectedKernelsOf traceRun.kernelLog, session.loadedSos⟩),
          .done ()) := by
  cases htracer : Tracer.newOnDisk host disk loaderPath with
  | none => exact .inl ⟨.panic, by simp only [trace, htracer], nofun⟩
  | some tracer =>
    cases hresult : tracer.trace fuel traceRun with
    | done report =>
      obtain ⟨session, hrun, hfinished, rfl⟩ := Tracer.trace_eq_done hresult
      exact .inr ⟨tracer, session, rfl, hrun, hfinished, trace_of_done htracer hresult⟩
    | panic => exact .inl ⟨.panic, by simp only [trace, htracer, hresult], nofun⟩
    | fuelOut => exact .inl ⟨.fuelOut, by simp only [trace, htracer, hresult], nofun⟩

variable {outputDir : String}

theorem debloat_of_trace {traced : Disk}
    (htrace : trace host fuel loaderPath (outputDir ++ "/trace.json") traceRun disk =
      (traced, .done ())) :
    debloat host fuel loaderPath outputDir traceRun disk =
      locate host fuel (outputDir ++ "/trace.json") (outputDir ++ "/spans") traced := by
  rw [debloat, htrace]

/-- `debloat` stops where `trace` stops without returning; otherwise it is
`locate` on the disk with the report of the finished session. -/
theorem debloat_cases :
    (∃ result, debloat host fuel loaderPath outputDir traceRun disk = (disk, result) ∧
      result ≠ .done ()) ∨
    ∃ tracer session, Tracer.newOnDisk host disk loaderPath = some tracer ∧
      (Session.initial traceRun.child).run tracer traceRun.fileSystem fuel traceRun.events =
        some session ∧
      session.collector = .finished ∧
      debloat host fuel loaderPath outputDir traceRun disk =
        locate host fuel (outputDir ++ "/trace.json") (outputDir ++ "/spans")
          (disk.write (outputDir ++ "/trace.json")
            (.report ⟨detectedKernelsOf traceRun.kernelLog, session.loadedSos⟩)) := by
  rcases trace_cases (outputDir ++ "/trace.json") with ⟨result, htrace, hresult⟩ |
    ⟨tracer, session, htracer, hrun, hfinished, htrace⟩
  · refine .inl ⟨result, ?_, hresult⟩
    unfold debloat
    rw [htrace]
    cases result with
    | done _ => exact absurd rfl hresult
    | panic | fuelOut => rfl
  · exact .inr ⟨tracer, session, htracer, hrun, hfinished, debloat_of_trace htrace⟩

theorem locateLibrary_of_write_report {reportPath soPath : String} {report : TraceReport}
    {detectedKernels : Finset String} {targetComputeCapability : Nat}
    {result : Option (List ElementSpan)}
    (h : locateLibrary host fuel (disk.write reportPath (.report report)) detectedKernels
      targetComputeCapability soPath = .done result) :
    locateLibrary host fuel disk detectedKernels targetComputeCapability soPath = .done result := by
  by_cases hpath : soPath = reportPath
  · have hfile : (disk.write reportPath (.report report)).files soPath = some (.report report) := by
      rw [Disk.files_write, if_pos hpath]
    rw [locateLibrary_of_json hfile nofun] at h
    cases h
  · rwa [locateLibrary_congr (by simp [hpath] :
      (disk.write reportPath (.report report)).files soPath = disk.files soPath)] at h

end Steps

/-! ## From the traced process to the span files -/

section Debloat

variable {host : Host} {fuel : Nat} {loaderPath outputDir : String} {traceRun : TraceRun}
  {disk : Disk}

/-- However `debloat` ends, every file it changes is the report or a span
file.  The report, at `<output>/trace.json`, holds the trimmed lines of the
kernel log and the libraries the collector kept once every supervisor was
gone.  A span file sits at the span path under `<output>/spans` of the
absolute form of a path some supervisor read from a link map and that passes
the collector's filters, and it holds the spans the loop body computes for
that library and the logged kernels on the disk `debloat` started from. -/
theorem debloat_changes_only_report_and_span_files {path : String}
    (hchanged : (debloat host fuel loaderPath outputDir traceRun disk).1.files path ≠
      disk.files path) :
    ∃ tracer session, Tracer.newOnDisk host disk loaderPath = some tracer ∧
      (Session.initial traceRun.child).run tracer traceRun.fileSystem fuel traceRun.events =
        some session ∧
      session.collector = .finished ∧
      ((path = outputDir ++ "/trace.json" ∧
          (debloat host fuel loaderPath outputDir traceRun disk).1.files path =
            some (.report ⟨detectedKernelsOf traceRun.kernelLog, session.loadedSos⟩)) ∨
        ∃ targetComputeCapability soPath spans,
          host.computeCapabilities = [targetComputeCapability] ∧
          (∃ sent ∈ session.sent, traceRun.fileSystem.Keeps sent ∧
            (if sent.startsWith "/" then traceRun.fileSystem.canonicalize sent
              else some (traceRun.fileSystem.currentDir ++ "/" ++ sent)) = some soPath) ∧
          spanFilePath (outputDir ++ "/spans") soPath = path ∧
          locateLibrary host fuel disk (detectedKernelsOf traceRun.kernelLog)
            targetComputeCapability soPath = .done (some spans) ∧
          (debloat host fuel loaderPath outputDir traceRun disk).1.files path =
            some (.spanFile soPath spans)) := by
  rcases debloat_cases with ⟨result, hdebloat, -⟩ |
    ⟨tracer, session, htracer, hrun, hfinished, hdebloat⟩
  · exact absurd (by rw [hdebloat]) hchanged
  refine ⟨tracer, session, htracer, hrun, hfinished, ?_⟩
  rw [hdebloat] at hchanged ⊢
  by_cases hlocate : (locate host fuel (outputDir ++ "/trace.json") (outputDir ++ "/spans")
      (disk.write (outputDir ++ "/trace.json")
        (.report ⟨detectedKernelsOf traceRun.kernelLog, session.loadedSos⟩))).1.files path =
      (disk.write (outputDir ++ "/trace.json")
        (.report ⟨detectedKernelsOf traceRun.kernelLog, session.loadedSos⟩)).files path
  · -- `locate` left the path alone, so `trace` wrote it: it is the report
    have hpath : path = outputDir ++ "/trace.json" := by
      by_contra hpath
      rw [hlocate, Disk.files_write, if_neg hpath] at hchanged
      exact hchanged rfl
    exact .inl ⟨hpath, by rw [hlocate, hpath, Disk.files_write, if_pos rfl]⟩
  · -- `locate` wrote it: the span file of a library of the report
    rcases locate_eq_or_writtenBy with hsame | ⟨report, targetComputeCapability, hreport, hcap,
      hwritten⟩
    · exact absurd (by rw [hsame]) hlocate
    rw [Disk.files_write, if_pos rfl, Option.some.injEq, File.report.injEq] at hreport
    subst hreport
    obtain ⟨soPath, hvisited, hpath, spans, hspans, hfile⟩ := hwritten path hlocate
    exact .inr ⟨targetComputeCapability, soPath, spans, hcap,
      (Session.mem_loadedSos_of_finished hrun hfinished _).mp ((host.mem_order _ _).mp hvisited),
      hpath, locateLibrary_of_write_report hspans, hfile⟩

/-- When `debloat` returns on a machine with one GPU, the loop body returned
on every library the collector kept, on the disk `debloat` started from; and
each such library with a `.nv_fatbin` section, whose file name no other kept
library has, has its span file under `<output>/spans`. -/
theorem debloat_locates_every_traced_library {targetComputeCapability : Nat}
    (hcap : host.computeCapabilities = [targetComputeCapability])
    (hdone : (debloat host fuel loaderPath outputDir traceRun disk).2 = .done ()) :
    ∃ tracer session, Tracer.newOnDisk host disk loaderPath = some tracer ∧
      (Session.initial traceRun.child).run tracer traceRun.fileSystem fuel traceRun.events =
        some session ∧
      session.collector = .finished ∧
      ∀ soPath ∈ session.loadedSos, ∃ result,
        locateLibrary host fuel disk (detectedKernelsOf traceRun.kernelLog)
          targetComputeCapability soPath = .done result ∧
        ∀ spans, result = some spans →
          (∀ other ∈ session.loadedSos, fileName other = fileName soPath → other = soPath) →
          (debloat host fuel loaderPath outputDir traceRun disk).1.files
            (spanFilePath (outputDir ++ "/spans") soPath) = some (.spanFile soPath spans) := by
  rcases debloat_cases with ⟨result, hdebloat, hresult⟩ |
    ⟨tracer, session, htracer, hrun, hfinished, hdebloat⟩
  · rw [hdebloat] at hdone
    exact absurd hdone hresult
  refine ⟨tracer, session, htracer, hrun, hfinished, fun soPath hloaded => ?_⟩
  rw [hdebloat, locate_eq_locateLoop (by rw [Disk.files_write, if_pos rfl]) hcap] at hdone ⊢
  have hvisited := (host.mem_order _ _).mpr hloaded
  obtain ⟨result, hresult⟩ := locateLoop_done _ writtenBy_start hdone soPath hvisited
  refine ⟨result, locateLibrary_of_write_report hresult, fun spans hspans hunique => ?_⟩
  subst hspans
  exact locateLoop_spanFile hdone hvisited hresult
    fun other hother => hunique other ((host.mem_order _ _).mp hother)

end Debloat

/-! ## A traced machine -/

/-- The demo machine with a loader: a file that starts with the ELF magic's
first byte parses as `demoLibraryElf` when it is the demo library, and as
`ELF64.loaderElf` otherwise. -/
def loaderHost : Host :=
  { demoHost with
    parseElf := fun data => if data.head? = some 0x7f then
        some (if data = demoLibrary then demoLibraryElf else ELF64.loaderElf)
      else none
    parseElf_magic := fun _ _ h => head?_of_magic h }

def loaderBytes : List UInt8 := [0x7f, 0x45, 0x4c, 0x46] ++ List.replicate 0x1ffc 0

def loaderDisk : Disk :=
  demoDisk.write "/lib64/ld-linux-x86-64.so.2" (.bytes loaderBytes)

/-- `Tracer::new` on `ELF64.loaderElf` reads one byte of the file: the one at
the offset of `_dl_debug_state`. -/
theorem loaderElf_tracer {data : List UInt8} (h : data[0x1a20]? = some 0) :
    Tracer.new "/lib64/ld-linux-x86-64.so.2" data ELF64.loaderElf =
      some ⟨0x1a20, 0x3e00, "/lib64/ld-linux-x86-64.so.2"⟩ := by
  show (data[0x1a20]?).bind
    (fun _ => some (⟨0x1a20, 0x3e00, "/lib64/ld-linux-x86-64.so.2"⟩ : Tracer)) = _
  rw [h]
  rfl

theorem loaderDisk_tracer :
    Tracer.newOnDisk loaderHost loaderDisk "/lib64/ld-linux-x86-64.so.2" =
      some ⟨0x1a20, 0x3e00, "/lib64/ld-linux-x86-64.so.2"⟩ :=
  calc Tracer.newOnDisk loaderHost loaderDisk "/lib64/ld-linux-x86-64.so.2"
      = (loaderDisk.read loaderHost "/lib64/ld-linux-x86-64.so.2").bind (fun data =>
          (loaderHost.parseElf data).bind (Tracer.new "/lib64/ld-linux-x86-64.so.2" data)) := rfl
    _ = Tracer.new "/lib64/ld-linux-x86-64.so.2" loaderBytes ELF64.loaderElf := by
      rw [show loaderDisk.read loaderHost "/lib64/ld-linux-x86-64.so.2" = some loaderBytes
        from rfl, Option.some_bind,
        show loaderHost.parseElf loaderBytes = some ELF64.loaderElf from rfl, Option.some_bind]
    _ = _ := loaderElf_tracer ((List.getElem?_append_right (by decide)).trans
      (List.getElem?_replicate_of_lt (by decide)))

def loaderAttached : Observation :=
  ⟨some (.stopped 4242 ⟨19⟩), 0, .ofSegments [(0x7f0000001a20, List.replicate 8 0xc3)],
    [⟨0x7f0000000000, some "/lib64/ld-linux-x86-64.so.2"⟩], none⟩

/-- The tracee at the breakpoint after loading the demo library: `r_debug` is
consistent and its one link-map entry names "/usr/lib/libdemo.so". -/
def libdemoLoaded : Observation :=
  ⟨some (.stopped 4242 .sigtrap), 0x7f0000001a21,
    .ofSegments
      [(0x7f0000003e00, wordBytes 1 ++ wordBytes 0x7f0000040000 ++ wordBytes 0 ++ wordBytes 0 ++
          wordBytes 0),
        (0x7f0000040000, wordBytes 0 ++ wordBytes 0x7f0000050000 ++ wordBytes 0 ++ wordBytes 0 ++
          wordBytes 0),
        (0x7f0000050000, "/usr/lib/libdemo.so".toUTF8.toList ++ List.replicate 8 0)],
    [], none⟩

/-- A run that loads the demo library and launches `vecAdd`: the tracee
reaches the breakpoint once and exits, the collector receives the path and
closes. -/
def libdemoRun : TraceRun :=
  ⟨4242, [.start 0 loaderAttached, .pass 0 libdemoLoaded, .act 0, .endPass 0,
      .pass 0 exitedTracee, .endPass 0, .receive, .close],
    ⟨fun soPath => decide (soPath = "/usr/lib/libdemo.so"), some, "/work"⟩, ["  vecAdd", ""]⟩

/-- `debloat` on the run writes the report with the demo library and the
library's span file. -/
theorem libdemoRun_debloat :
    debloat loaderHost 89 "/lib64/ld-linux-x86-64.so.2" "/out" libdemoRun loaderDisk =
      ((loaderDisk.write "/out/trace.json" (.report ⟨{"vecAdd"}, {"/usr/lib/libdemo.so"}⟩)).write
        "/out/spans/libdemo.so.json" (.spanFile "/usr/lib/libdemo.so" [⟨52, 56⟩, ⟨88, 92⟩]),
        .done ()) := by
  have htrace : trace loaderHost 89 "/lib64/ld-linux-x86-64.so.2" ("/out" ++ "/trace.json")
      libdemoRun loaderDisk = (loaderDisk.write "/out/trace.json"
        (.report ⟨{"vecAdd"}, {"/usr/lib/libdemo.so"}⟩), .done ()) :=
    trace_of_done loaderDisk_tracer (by with_unfolding_all rfl)
  have hreport : (loaderDisk.write "/out/trace.json"
      (.report ⟨{"vecAdd"}, {"/usr/lib/libdemo.so"}⟩)).files ("/out" ++ "/trace.json") =
      some (.report ⟨{"vecAdd"}, {"/usr/lib/libdemo.so"}⟩) := rfl
  rw [debloat_of_trace htrace, locate_eq_locateLoop hreport rfl,
    show loaderHost.order {"/usr/lib/libdemo.so"} = ["/usr/lib/libdemo.so"] from
      Finset.sort_singleton _ _]
  rfl

theorem libdemoRun_changes_span_file :
    (debloat loaderHost 89 "/lib64/ld-linux-x86-64.so.2" "/out" libdemoRun loaderDisk).1.files
        "/out/spans/libdemo.so.json" ≠ loaderDisk.files "/out/spans/libdemo.so.json" ∧
      ∃ tracer session, Tracer.newOnDisk loaderHost loaderDisk "/lib64/ld-linux-x86-64.so.2" =
          some tracer ∧
        (Session.initial libdemoRun.child).run tracer libdemoRun.fileSystem 89
          libdemoRun.events = some session ∧
        session.collector = .finished ∧
        (("/out/spans/libdemo.so.json" = "/out" ++ "/trace.json" ∧
            (debloat loaderHost 89 "/lib64/ld-linux-x86-64.so.2" "/out" libdemoRun
              loaderDisk).1.files "/out/spans/libdemo.so.json" =
              some (.report ⟨detectedKernelsOf libdemoRun.kernelLog, session.loadedSos⟩)) ∨
          ∃ targetComputeCapability soPath spans,
            loaderHost.computeCapabilities = [targetComputeCapability] ∧
            (∃ sent ∈ session.sent, libdemoRun.fileSystem.Keeps sent ∧
              (if sent.startsWith "/" then libdemoRun.fileSystem.canonicalize sent
                else some (libdemoRun.fileSystem.currentDir ++ "/" ++ sent)) = some soPath) ∧
            spanFilePath ("/out" ++ "/spans") soPath = "/out/spans/libdemo.so.json" ∧
            locateLibrary loaderHost 89 loaderDisk (detectedKernelsOf libdemoRun.kernelLog)
              targetComputeCapability soPath = .done (some spans) ∧
            (debloat loaderHost 89 "/lib64/ld-linux-x86-64.so.2" "/out" libdemoRun
              loaderDisk).1.files "/out/spans/libdemo.so.json" = some (.spanFile soPath spans)) :=
  have hchanged : (debloat loaderHost 89 "/lib64/ld-linux-x86-64.so.2" "/out" libdemoRun
      loaderDisk).1.files "/out/spans/libdemo.so.json" ≠
      loaderDisk.files "/out/spans/libdemo.so.json" := by
    rw [libdemoRun_debloat]
    decide
  ⟨hchanged, debloat_changes_only_report_and_span_files hchanged⟩

theorem libdemoRun_locates_every_traced_library :
    loaderHost.computeCapabilities = [75] ∧
      (debloat loaderHost 89 "/lib64/ld-linux-x86-64.so.2" "/out" libdemoRun loaderDisk).2 =
        .done () ∧
      ∃ tracer session, Tracer.newOnDisk loaderHost loaderDisk "/lib64/ld-linux-x86-64.so.2" =
          some tracer ∧
        (Session.initial libdemoRun.child).run tracer libdemoRun.fileSystem 89
          libdemoRun.events = some session ∧
        session.collector = .finished ∧
        ∀ soPath ∈ session.loadedSos, ∃ result,
          locateLibrary loaderHost 89 loaderDisk (detectedKernelsOf libdemoRun.kernelLog) 75
            soPath = .done result ∧
          ∀ spans, result = some spans →
            (∀ other ∈ session.loadedSos, fileName other = fileName soPath → other = soPath) →
            (debloat loaderHost 89 "/lib64/ld-linux-x86-64.so.2" "/out" libdemoRun
              loaderDisk).1.files (spanFilePath ("/out" ++ "/spans") soPath) =
              some (.spanFile soPath spans) :=
  have hdone : (debloat loaderHost 89 "/lib64/ld-linux-x86-64.so.2" "/out" libdemoRun
      loaderDisk).2 = .done () := by
    rw [libdemoRun_debloat]
  ⟨rfl, hdone, debloat_locates_every_traced_library rfl hdone⟩

end NegativaMl
