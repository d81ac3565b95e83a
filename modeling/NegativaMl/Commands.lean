import NegativaMl.Debloat
import NegativaMl.CubinKernels
import NegativaMl.Elf
import Mathlib.Data.Finset.Sort
import Mathlib.Data.String.Basic

/-!
# The commands of `main.rs` on the disk

`locate` reads the trace report and, for every loaded library with a
`.nv_fatbin` section, writes the spans `locate_deletable_file_spans` returns to
`output_dir/<file name>.json`.  `reconstruct` reads such a span file, copies the
library it names to `output_dir/<file name>` and rewrites the copy.  Both act on
a disk, a file for each path, and on a host that stands for what the program
takes from outside: the `elf` crate's parse, the GPUs, the `cuobjdump`
processes, the bytes `serde_json` writes, and the order in which a `HashSet`
is iterated.

A panic stops the process but keeps what was already written.  Whatever way
`locate` ends, every file it changed is the span file of a library of the
report; when it returns, of two libraries with one file name only the one
visited last keeps its span file.  `reconstruct` does on disk what
`locateThenReconstruct` computes, unless the copy's path is the library's own:
`std::fs::copy` truncates the destination before it reads the source, so the
library is left empty.
-/

namespace NegativaMl

/-- `TraceReport`: the kernels the kernel detector logged and the libraries
the traced processes loaded. -/
structure TraceReport where
  detectedKernels : Finset String
  loadedSos : Finset String
  deriving DecidableEq

/-- A file on disk: the bytes of a library, or one of the two JSON documents
the commands write, as `serde_json` reads it back: the span file
`{"so_path", "spans"}` of `locate`, and the report of `trace`. -/
inductive File
  | bytes (data : List UInt8)
  | spanFile (soPath : String) (spans : List ElementSpan)
  | report (report : TraceReport)
  deriving DecidableEq

structure Disk where
  files : String → Option File

namespace Disk

/-- `std::fs::write`, or `File::create` and a writer: the file at `path` is
now `file`. -/
def write (disk : Disk) (path : String) (file : File) : Disk :=
  ⟨fun other => if other = path then some file else disk.files other⟩

/-- `std::fs::copy(from, to).unwrap()`: `none` when there is no file at `from`.
`to` is opened and truncated before `from` is read, so a file copied onto its
own path is left empty. -/
def copy (disk : Disk) (src dst : String) : Option Disk :=
  (disk.files src).map fun file => disk.write dst (if dst = src then .bytes [] else file)

variable {disk : Disk} {path other : String} {file file' : File}

@[simp] theorem files_write :
    (disk.write path file).files other = if other = path then some file else disk.files other :=
  rfl

@[simp] theorem write_write : (disk.write path file).write path file' = disk.write path file' :=
  congrArg Disk.mk (funext fun other => by by_cases h : other = path <;> simp [write, h])

theorem files_write_of_files (h : disk.files other = some file) :
    (disk.write path file).files other = some file := by
  by_cases hother : other = path <;> simp [hother, h]

theorem copy_of_ne (h : disk.files path = some file) (hne : other ≠ path) :
    disk.copy path other = some (disk.write other file) := by
  simp [copy, h, hne]

theorem copy_self (h : disk.files path = some file) :
    disk.copy path path = some (disk.write path (.bytes [])) := by
  simp [copy, h]

end Disk

/-- What the commands take from outside the program.  `parseElf` is
`ElfBytes::minimal_parse`, `none` for its error; it checks the ELF magic, whose
first byte is `0x7f`.  `spanFileData` and `reportData` are the bytes
`serde_json::to_writer_pretty` writes for a span file and a report, JSON
objects that start with `{`.  `computeCapabilities` is
`get_compute_capabilities`.  For a library, `cubinDir` is the directory
`tempdir()` gives its locator and `extraction` the run of
`cuobjdump <so> -xelf all` there, and `isFile` is `Path::is_file` after it;
`listing` is the run of `cuobjdump -elf <cubin>` for a cubin file.  A run is
`none` when the process cannot be spawned or waited for.  `order` is the order
in which `HashSet::iter` visits a set: each element once. -/
structure Host where
  parseElf : List UInt8 → Option ElfFile
  parseElf_magic : ∀ data elf, parseElf data = some elf → data.head? = some 0x7f
  spanFileData : String → List ElementSpan → List UInt8
  spanFileData_head : ∀ soPath spans, (spanFileData soPath spans).head? = some 0x7b
  reportData : TraceReport → List UInt8
  reportData_head : ∀ report, (reportData report).head? = some 0x7b
  computeCapabilities : List Nat
  cubinDir : String → String
  extraction : String → Option CuobjdumpRun
  isFile : String → Bool
  listing : String → Option CuobjdumpRun
  order : Finset String → List String
  order_nodup : ∀ s, (order s).Nodup
  mem_order : ∀ s soPath, soPath ∈ order s ↔ soPath ∈ s

def File.data (host : Host) : File → List UInt8
  | .bytes soData => soData
  | .spanFile soPath spans => host.spanFileData soPath spans
  | .report traceReport => host.reportData traceReport

/-- `std::fs::read(path).unwrap()`: the bytes of the file at `path`; `none` is
a panic, there being no file there. -/
def Disk.read (disk : Disk) (host : Host) (path : String) : Option (List UInt8) :=
  (disk.files path).map (File.data host)

theorem Host.parseElf_json (host : Host) {file : File} (hjson : ∀ data, file ≠ .bytes data) :
    host.parseElf (file.data host) = none := by
  have hhead : (file.data host).head? = some 0x7b := by
    cases file with
    | bytes data => exact absurd rfl (hjson data)
    | spanFile soPath spans => exact host.spanFileData_head soPath spans
    | report report => exact host.reportData_head report
  cases h : host.parseElf (file.data host) with
  | none => rfl
  | some elf =>
    have hmagic := hhead.symm.trans (host.parseElf_magic _ elf h)
    exact absurd (Option.some.inj hmagic) (by decide)

/-- `path.split('/').last().unwrap()`: what follows the last `/`.  `split`
yields at least one piece, so the `unwrap` never panics. -/
def fileName (path : String) : String :=
  (strSplit '/' path).getLast (by simp [strSplit, List.splitOnP_ne_nil])

/-- `format!("{}/{}.json", output_dir, ...)`: where `locate` writes the spans
of `soPath`. -/
def spanFilePath (outputDir soPath : String) : String :=
  outputDir ++ "/" ++ fileName soPath ++ ".json"

theorem spanFilePath_eq_iff {outputDir soPath other : String} :
    spanFilePath outputDir other = spanFilePath outputDir soPath ↔
      fileName other = fileName soPath := by
  refine ⟨fun h => ?_, fun h => by rw [spanFilePath, h, spanFilePath]⟩
  have hdata := congrArg String.data h
  simp only [spanFilePath, String.data_append] at hdata
  exact String.ext ((List.append_right_inj _).mp ((List.append_left_inj _).mp hdata))

/-- `KernelLocator::new` with its file and processes: it reads the library,
slices and parses the section, then extracts the cubins into its temporary
directory (`extract_all_cubins`) and lists the kernels of each cubin
(`extract_cubin_kernels`, which ignores the exit status) as it records the
elements.  `KernelLocator.new` is the part after `extract_all_cubins`. -/
def KernelLocator.newWithCuobjdump (host : Host) (fuel : Nat) (disk : Disk) (soPath : String)
    (gpuCodeStartOffset gpuCodeSize : Nat) : Exec KernelLocator := do
  let soData ← Exec.ofOption (disk.read host soPath)
  let gpuCodeEnd ← Exec.ofOption (checkedAdd gpuCodeStartOffset gpuCodeSize)
  let gpuCodeData ← Exec.ofOption (slice soData gpuCodeStartOffset gpuCodeEnd)
  let _ ← GPUCode.new fuel gpuCodeData
  let cubinPaths ← Exec.ofOption
    (extractAllCubins host.isFile (host.cubinDir soPath) (host.extraction soPath))
  KernelLocator.new soPath soData gpuCodeStartOffset gpuCodeSize cubinPaths
    (fun cubinPath => (host.listing cubinPath).bind fun run => extractCubinKernels run.lines) fuel

/-- The body of the loop of `locate` for one library: `none` when the library
has no `.nv_fatbin` section (the `continue`), else the spans for its span
file. -/
def locateLibrary (host : Host) (fuel : Nat) (disk : Disk) (detectedKernels : Finset String)
    (targetComputeCapability : Nat) (soPath : String) : Exec (Option (List ElementSpan)) := do
  let soData ← Exec.ofOption (disk.read host soPath)
  let elf ← Exec.ofOption ((host.parseElf soData).bind ELF64.new)
  let hasGpuCode ← Exec.ofOption elf.hasGpuCode
  if hasGpuCode then
    let gpuCodeOffset ← Exec.ofOption (elf.getGpuCodeOffset.bind id)
    let gpuCodeSize ← Exec.ofOption (elf.getGpuCodeSize.bind id)
    let locator ← KernelLocator.newWithCuobjdump host fuel disk soPath gpuCodeOffset gpuCodeSize
    let spans ← Exec.ofOption
      (locator.locateDeletableFileSpans detectedKernels targetComputeCapability)
    pure (some spans)
  else pure none

/-- The loop of `locate` over the loaded libraries: it stops at the first
library whose body panics or does not return, with the span files written so
far. -/
def locateLoop (host : Host) (fuel : Nat) (outputDir : String) (detectedKernels : Finset String)
    (targetComputeCapability : Nat) : Disk → List String → Disk × Exec Unit
  | disk, [] => (disk, .done ())
  | disk, soPath :: soPaths =>
    match locateLibrary host fuel disk detectedKernels targetComputeCapability soPath with
    | .done none => locateLoop host fuel outputDir detectedKernels targetComputeCapability disk soPaths
    | .done (some spans) =>
      locateLoop host fuel outputDir detectedKernels targetComputeCapability
        (disk.write (spanFilePath outputDir soPath) (.spanFile soPath spans)) soPaths
    | .panic => (disk, .panic)
    | .fuelOut => (disk, .fuelOut)

/-- The `locate` command: with no GPU it returns at once; with more than one
the `assert_eq!` panics.  Directories (`create_dir_all`) are not modelled. -/
def locate (host : Host) (fuel : Nat) (reportPath outputDir : String) (disk : Disk) :
    Disk × Exec Unit :=
  match disk.files reportPath with
  | some (.report report) =>
    match host.computeCapabilities with
    | [] => (disk, .done ())
    | [targetComputeCapability] =>
      locateLoop host fuel outputDir report.detectedKernels targetComputeCapability disk
        (host.order report.loadedSos)
    | _ => (disk, .panic)
  | _ => (disk, .panic)

/-- The `reconstruct` command: it reads the span file, copies the library it
names to `output_dir/<file name>` (`Reconstructor::new`) and rewrites the copy
(`Reconstructor::rewrite`), which reads the copy back and writes it over. -/
def reconstruct (host : Host) (spanPath outputDir : String) (disk : Disk) : Disk × Exec Unit :=
  match disk.files spanPath with
  | some (.spanFile soPath spans) =>
    let dstSoPath := outputDir ++ "/" ++ fileName soPath
    match disk.copy soPath dstSoPath with
    | some copied =>
      match (copied.read host dstSoPath).bind fun soData => Reconstructor.rewrite soData spans with
      | some rewritten => (copied.write dstSoPath (.bytes rewritten), .done ())
      | none => (copied, .panic)
    | none => (disk, .panic)
  | _ => (disk, .panic)

/-! ## One library -/

section OneLibrary

variable {host : Host} {fuel : Nat} {disk : Disk} {soPath : String} {soData : List UInt8}

theorem KernelLocator.newWithCuobjdump_eq_done {gpuCodeStartOffset gpuCodeSize : Nat}
    {locator : KernelLocator} (hread : disk.read host soPath = some soData)
    (h : KernelLocator.newWithCuobjdump host fuel disk soPath gpuCodeStartOffset gpuCodeSize =
      .done locator) :
    ∃ cubinPaths,
      extractAllCubins host.isFile (host.cubinDir soPath) (host.extraction soPath) =
        some cubinPaths ∧
      KernelLocator.new soPath soData gpuCodeStartOffset gpuCodeSize cubinPaths
        (fun cubinPath => (host.listing cubinPath).bind fun run => extractCubinKernels run.lines)
        fuel = .done locator := by
  simp only [KernelLocator.newWithCuobjdump, hread, Exec.ofOption_some, Exec.done_bind,
    Exec.bind_eq_done, Exec.ofOption_eq_done] at h
  obtain ⟨-, -, -, -, -, -, cubinPaths, hcubinPaths, hnew⟩ := h
  exact ⟨cubinPaths, hcubinPaths, hnew⟩

variable {detectedKernels : Finset String} {targetComputeCapability : Nat} {elf : ELF64}
  {header : SectionHeader}

/-- On a library with a `.nv_fatbin` section, the loop body builds the full
locator on the section and returns the spans of the deletion rule. -/
theorem locateLibrary_of_section (hread : disk.read host soPath = some soData)
    (helf : (host.parseElf soData).bind ELF64.new = some elf)
    (hheader : elf.parsedElf.sectionHeaderByName ".nv_fatbin" = some (some header)) :
    locateLibrary host fuel disk detectedKernels targetComputeCapability soPath =
      KernelLocator.newWithCuobjdump host fuel disk soPath header.shOffset header.shSize >>=
        fun locator => Exec.ofOption
          (locator.locateDeletableFileSpans detectedKernels targetComputeCapability) >>=
        fun spans => pure (some spans) := by
  simp [locateLibrary, hread, helf, ELF64.hasGpuCode, ELF64.getGpuCodeOffset,
    ELF64.getGpuCodeSize, ELF64.getSectionOffset, ELF64.getSectionSize, ELF64.sectionField,
    hheader]

theorem locateLibrary_of_json {file : File} (hfile : disk.files soPath = some file)
    (hjson : ∀ data, file ≠ .bytes data) :
    locateLibrary host fuel disk detectedKernels targetComputeCapability soPath = .panic := by
  simp [locateLibrary, Disk.read, hfile, host.parseElf_json hjson]

variable {spanPath outputDir : String} {spans : List ElementSpan} {file : File}

/-- `reconstruct` on a span file whose library is on disk, at another path
than the copy's: the copy holds the rewritten bytes of the library when
`rewrite` returns, and an exact copy of it when `rewrite` panics; no other file
changes. -/
theorem reconstruct_eq (hspan : disk.files spanPath = some (.spanFile soPath spans))
    (hlib : disk.files soPath = some file) (hdst : outputDir ++ "/" ++ fileName soPath ≠ soPath) :
    reconstruct host spanPath outputDir disk =
      match Reconstructor.rewrite (file.data host) spans with
      | some rewritten =>
        (disk.write (outputDir ++ "/" ++ fileName soPath) (.bytes rewritten), .done ())
      | none => (disk.write (outputDir ++ "/" ++ fileName soPath) file, .panic) := by
  simp only [reconstruct, hspan, Disk.copy_of_ne hlib hdst, Disk.read, Disk.files_write, if_pos,
    Option.map_some', Option.some_bind]
  cases Reconstructor.rewrite (file.data host) spans <;> simp

/-- `reconstruct` whose copy's path is the library's own: the copy truncates
the library, and `rewrite` reads no bytes, so it panics unless every span is
empty. -/
theorem reconstruct_of_dst_eq (hspan : disk.files spanPath = some (.spanFile soPath spans))
    (hlib : disk.files soPath = some file) (hdst : outputDir ++ "/" ++ fileName soPath = soPath) :
    reconstruct host spanPath outputDir disk =
      (disk.write soPath (.bytes []),
        if ∀ span ∈ spans, span.end ≤ span.start then .done () else .panic) := by
  have hempty : (∀ span ∈ spans, span.start < span.end → span.end ≤ ([] : List UInt8).length) ↔
      ∀ span ∈ spans, span.end ≤ span.start :=
    forall₂_congr fun span _ => by simp only [List.length_nil]; omega
  simp only [reconstruct, hspan, hdst, Disk.copy_self hlib, Disk.read, Disk.files_write, if_pos,
    Option.map_some', Option.some_bind, File.data, Reconstructor.rewrite_eq, hempty]
  split_ifs <;> simp [markBytes]

/-- When the copy's path is the library's own, `std::fs::copy` truncates the
library before it reads it: `reconstruct` leaves the library empty, whatever
the spans, changes no other file, and returns only when every span is
empty. -/
theorem reconstruct_in_place_empties_library
    (hspan : disk.files spanPath = some (.spanFile soPath spans))
    (hlib : (disk.files soPath).isSome) (hdst : outputDir ++ "/" ++ fileName soPath = soPath) :
    (reconstruct host spanPath outputDir disk).1.files soPath = some (.bytes []) ∧
      ((reconstruct host spanPath outputDir disk).2 = .done () ↔
        ∀ span ∈ spans, span.end ≤ span.start) ∧
      ∀ path ≠ soPath, (reconstruct host spanPath outputDir disk).1.files path = disk.files path := by
  obtain ⟨file, hfile⟩ := Option.isSome_iff_exists.mp hlib
  rw [reconstruct_of_dst_eq hspan hfile hdst]
  refine ⟨by simp, ?_, fun path hpath => by simp [hpath]⟩
  split_ifs with hall
  · exact iff_of_true rfl hall
  · exact iff_of_false nofun hall

end OneLibrary

/-! ## The loop of `locate` -/

section Locate

variable {host : Host} {fuel : Nat} {outputDir : String} {detectedKernels : Finset String}
  {targetComputeCapability : Nat}

theorem locateLibrary_congr {disk disk' : Disk} {soPath : String}
    (h : disk.files soPath = disk'.files soPath) :
    locateLibrary host fuel disk detectedKernels targetComputeCapability soPath =
      locateLibrary host fuel disk' detectedKernels targetComputeCapability soPath := by
  simp only [locateLibrary, KernelLocator.newWithCuobjdump, Disk.read, h]

variable (host fuel outputDir detectedKernels targetComputeCapability) in
/-- Every file the loop changed on its way from `start` to `disk` is the span
file of a library of `visited`, holding the spans the loop body computes for
that library on `start`. -/
def WrittenBy (start : Disk) (visited : List String) (disk : Disk) : Prop :=
  ∀ path, disk.files path ≠ start.files path →
    ∃ soPath ∈ visited, spanFilePath outputDir soPath = path ∧ ∃ spans,
      locateLibrary host fuel start detectedKernels targetComputeCapability soPath =
        .done (some spans) ∧ disk.files path = some (.spanFile soPath spans)

variable {start disk : Disk} {visited : List String}

theorem writtenBy_start :
    WrittenBy host fuel outputDir detectedKernels targetComputeCapability start [] start :=
  fun _ h => absurd rfl h

theorem locateLibrary_of_writtenBy
    (h : WrittenBy host fuel outputDir detectedKernels targetComputeCapability start visited disk)
    (soPath : String) :
    locateLibrary host fuel disk detectedKernels targetComputeCapability soPath = .panic ∨
      locateLibrary host fuel disk detectedKernels targetComputeCapability soPath =
        locateLibrary host fuel start detectedKernels targetComputeCapability soPath := by
  by_cases hsame : disk.files soPath = start.files soPath
  · exact .inr (locateLibrary_congr hsame)
  · obtain ⟨_, _, _, spans, -, hfile⟩ := h soPath hsame
    exact .inl (locateLibrary_of_json hfile nofun)

theorem WrittenBy.write
    (h : WrittenBy host fuel outputDir detectedKernels targetComputeCapability start visited disk)
    {soPath : String} {spans : List ElementSpan}
    (hspans : locateLibrary host fuel start detectedKernels targetComputeCapability soPath =
      .done (some spans)) :
    WrittenBy host fuel outputDir detectedKernels targetComputeCapability start
      (visited ++ [soPath])
      (disk.write (spanFilePath outputDir soPath) (.spanFile soPath spans)) := by
  intro path hchanged
  by_cases hpath : path = spanFilePath outputDir soPath
  · exact ⟨soPath, by simp, hpath.symm, spans, hspans, by simp [hpath]⟩
  · rw [Disk.files_write, if_neg hpath] at hchanged ⊢
    obtain ⟨visitedPath, hvisited, rest⟩ := h path hchanged
    exact ⟨visitedPath, List.mem_append_left _ hvisited, rest⟩

theorem WrittenBy.mono
    (h : WrittenBy host fuel outputDir detectedKernels targetComputeCapability start visited disk)
    (more : List String) :
    WrittenBy host fuel outputDir detectedKernels targetComputeCapability start
      (visited ++ more) disk := fun path hchanged =>
  let ⟨soPath, hvisited, rest⟩ := h path hchanged
  ⟨soPath, List.mem_append_left _ hvisited, rest⟩

/-- Over the whole loop, however it ends, every changed file is the span file
of a visited library. -/
theorem locateLoop_writtenBy (soPaths : List String)
    (h : WrittenBy host fuel outputDir detectedKernels targetComputeCapability start visited disk) :
    WrittenBy host fuel outputDir detectedKernels targetComputeCapability start
      (visited ++ soPaths)
      (locateLoop host fuel outputDir detectedKernels targetComputeCapability disk soPaths).1 := by
  induction soPaths generalizing disk visited with
  | nil => simpa [locateLoop] using h
  | cons soPath soPaths ih =>
    have hnext : ∀ {disk' : Disk}, WrittenBy host fuel outputDir detectedKernels
        targetComputeCapability start (visited ++ [soPath]) disk' →
        WrittenBy host fuel outputDir detectedKernels targetComputeCapability start
          (visited ++ soPath :: soPaths)
          (locateLoop host fuel outputDir detectedKernels targetComputeCapability disk'
            soPaths).1 := fun h' => by simpa using ih h'
    rcases locateLibrary_of_writtenBy h soPath with hpanic | hsame
    · simpa [locateLoop, hpanic] using h.mono (soPath :: soPaths)
    · rw [locateLoop, hsame]
      cases hresult : locateLibrary host fuel start detectedKernels targetComputeCapability
          soPath with
      | done spans =>
        cases spans with
        | none => exact hnext (h.mono [soPath])
        | some spans => exact hnext (h.write hresult)
      | panic | fuelOut => simpa using h.mono (soPath :: soPaths)

variable (host fuel outputDir detectedKernels targetComputeCapability) in
/-- What the loop body writes at `path` for `soPath`, run on `disk`: the span
file of `soPath` when `path` is its span path and the library has a
`.nv_fatbin` section, else nothing. -/
def spanFileAt (disk : Disk) (path soPath : String) : Option File :=
  if spanFilePath outputDir soPath = path then
    match locateLibrary host fuel disk detectedKernels targetComputeCapability soPath with
    | .done (some spans) => some (.spanFile soPath spans)
    | _ => none
  else none

theorem locateLoop_cons_of_done {soPath : String} {soPaths : List String}
    (h : WrittenBy host fuel outputDir detectedKernels targetComputeCapability start visited disk)
    (hdone : (locateLoop host fuel outputDir detectedKernels targetComputeCapability disk
      (soPath :: soPaths)).2 = .done ()) :
    ∃ result disk',
      locateLibrary host fuel start detectedKernels targetComputeCapability soPath =
        .done result ∧
      locateLoop host fuel outputDir detectedKernels targetComputeCapability disk
        (soPath :: soPaths) =
        locateLoop host fuel outputDir detectedKernels targetComputeCapability disk' soPaths ∧
      WrittenBy host fuel outputDir detectedKernels targetComputeCapability start
        (visited ++ [soPath]) disk' ∧
      ∀ path, disk'.files path =
        (spanFileAt host fuel outputDir detectedKernels targetComputeCapability start path
          soPath).or (disk.files path) := by
  rcases locateLibrary_of_writtenBy h soPath with hpanic | hsame
  · simp [locateLoop, hpanic] at hdone
  · rw [locateLoop, hsame] at hdone ⊢
    cases hresult : locateLibrary host fuel start detectedKernels targetComputeCapability
        soPath with
    | done result =>
      cases result with
      | none => exact ⟨none, disk, rfl, rfl, h.mono [soPath], fun path => by
          simp [spanFileAt, hresult]⟩
      | some spans => exact ⟨some spans, _, rfl, rfl, h.write hresult, fun path => by
          by_cases hpath : spanFilePath outputDir soPath = path
          · simp [spanFileAt, hresult, hpath]
          · simp [spanFileAt, hresult, hpath, Ne.symm hpath]⟩
    | panic | fuelOut => simp [hresult] at hdone

theorem locateLoop_done (soPaths : List String)
    (h : WrittenBy host fuel outputDir detectedKernels targetComputeCapability start visited disk)
    (hdone : (locateLoop host fuel outputDir detectedKernels targetComputeCapability disk
      soPaths).2 = .done ()) :
    ∀ soPath ∈ soPaths, ∃ result,
      locateLibrary host fuel start detectedKernels targetComputeCapability soPath =
        .done result := by
  induction soPaths generalizing disk visited with
  | nil => simp
  | cons soPath soPaths ih =>
    obtain ⟨result, disk', hresult, hloop, hnext, -⟩ := locateLoop_cons_of_done h hdone
    rw [hloop] at hdone
    exact List.forall_mem_cons.mpr ⟨⟨result, hresult⟩, ih hnext hdone⟩

/-- When the loop returns, the file at each path is what the last visited
library that writes there wrote, or what was there before. -/
theorem locateLoop_files (soPaths : List String)
    (h : WrittenBy host fuel outputDir detectedKernels targetComputeCapability start visited disk)
    (hdone : (locateLoop host fuel outputDir detectedKernels targetComputeCapability disk
      soPaths).2 = .done ()) (path : String) :
    (locateLoop host fuel outputDir detectedKernels targetComputeCapability disk soPaths).1.files
        path =
      (soPaths.reverse.findSome?
        (spanFileAt host fuel outputDir detectedKernels targetComputeCapability start path)).or
        (disk.files path) := by
  induction soPaths generalizing disk visited with
  | nil => simp [locateLoop]
  | cons soPath soPaths ih =>
    obtain ⟨result, disk', -, hloop, hnext, hfiles⟩ := locateLoop_cons_of_done h hdone
    rw [hloop] at hdone ⊢
    rw [ih hnext hdone, hfiles, List.reverse_cons, List.findSome?_append, Option.or_assoc,
      List.findSome?_cons]
    cases spanFileAt host fuel outputDir detectedKernels targetComputeCapability start path
      soPath <;> rfl

end Locate

/-! ## The commands -/

section Commands

variable {host : Host} {fuel : Nat} {reportPath outputDir : String} {disk : Disk}

theorem findSome?_of_unique {α β : Type} {f : α → Option β} {a : α} {b : β} :
    ∀ {l : List α}, a ∈ l → f a = some b → (∀ x ∈ l, x ≠ a → f x = none) →
      l.findSome? f = some b
  | x :: l, hmem, ha, hothers => by
    by_cases hx : x = a
    · subst hx
      simp [List.findSome?_cons, ha]
    · rw [List.findSome?_cons, hothers x (List.mem_cons_self _ _) hx]
      exact findSome?_of_unique ((List.mem_cons.mp hmem).resolve_left (Ne.symm hx)) ha
        fun y hy => hothers y (List.mem_cons_of_mem _ hy)

/-- When the loop returns, a library whose file name no other visited library
has keeps the span file the body wrote for it. -/
theorem locateLoop_spanFile {detectedKernels : Finset String} {targetComputeCapability : Nat}
    {soPaths : List String} {soPath : String} {spans : List ElementSpan}
    (hdone : (locateLoop host fuel outputDir detectedKernels targetComputeCapability disk
      soPaths).2 = .done ())
    (hvisited : soPath ∈ soPaths)
    (hspans : locateLibrary host fuel disk detectedKernels targetComputeCapability soPath =
      .done (some spans))
    (hunique : ∀ other ∈ soPaths, fileName other = fileName soPath → other = soPath) :
    (locateLoop host fuel outputDir detectedKernels targetComputeCapability disk soPaths).1.files
      (spanFilePath outputDir soPath) = some (.spanFile soPath spans) := by
  have hat : spanFileAt host fuel outputDir detectedKernels targetComputeCapability disk
      (spanFilePath outputDir soPath) soPath = some (.spanFile soPath spans) := by
    simp [spanFileAt, hspans]
  rw [locateLoop_files _ writtenBy_start hdone, findSome?_of_unique
    (List.mem_reverse.mpr hvisited) hat fun other hother hne => ?_]
  · rfl
  · have hname : fileName other ≠ fileName soPath :=
      fun h => hne (hunique other (List.mem_reverse.mp hother) h)
    simp [spanFileAt, spanFilePath_eq_iff, hname]

theorem locate_eq_locateLoop {report : TraceReport} {targetComputeCapability : Nat}
    (hreport : disk.files reportPath = some (.report report))
    (hcap : host.computeCapabilities = [targetComputeCapability]) :
    locate host fuel reportPath outputDir disk =
      locateLoop host fuel outputDir report.detectedKernels targetComputeCapability disk
        (host.order report.loadedSos) := by
  simp only [locate, hreport, hcap]

/-- `locate` leaves the disk as it was, or it read a report with one GPU and
every file it changed is a span file its loop wrote. -/
theorem locate_eq_or_writtenBy :
    (locate host fuel reportPath outputDir disk).1 = disk ∨
      ∃ report targetComputeCapability, disk.files reportPath = some (.report report) ∧
        host.computeCapabilities = [targetComputeCapability] ∧
        WrittenBy host fuel outputDir report.detectedKernels targetComputeCapability disk
          (host.order report.loadedSos) (locate host fuel reportPath outputDir disk).1 := by
  by_cases h : ∃ report targetComputeCapability,
      disk.files reportPath = some (.report report) ∧
        host.computeCapabilities = [targetComputeCapability]
  · obtain ⟨report, targetComputeCapability, hreport, hcap⟩ := h
    rw [locate_eq_locateLoop hreport hcap]
    exact .inr ⟨report, targetComputeCapability, hreport, hcap,
      by simpa using locateLoop_writtenBy _ writtenBy_start⟩
  · left
    unfold locate
    split
    · split
      · rfl
      · exact absurd ⟨_, _, ‹_›, ‹_›⟩ h
      · rfl
    · rfl

/-- However `locate` ends, with a panic, a loop that never returns or a
return, every file it changed is the span file of a library of the report: it
sits at that library's span path and holds the spans the loop body computes
for the library on the disk `locate` started from. -/
theorem locate_changes_only_span_files {path : String}
    (hchanged : (locate host fuel reportPath outputDir disk).1.files path ≠ disk.files path) :
    ∃ report targetComputeCapability soPath spans,
      disk.files reportPath = some (.report report) ∧
      host.computeCapabilities = [targetComputeCapability] ∧
      soPath ∈ report.loadedSos ∧ spanFilePath outputDir soPath = path ∧
      locateLibrary host fuel disk report.detectedKernels targetComputeCapability soPath =
        .done (some spans) ∧
      (locate host fuel reportPath outputDir disk).1.files path =
        some (.spanFile soPath spans) := by
  rcases locate_eq_or_writtenBy with hsame | ⟨report, targetComputeCapability, hreport, hcap,
    hwritten⟩
  · exact absurd (by rw [hsame]) hchanged
  · obtain ⟨soPath, hvisited, hpath, spans, hspans, hfile⟩ := hwritten path hchanged
    exact ⟨report, targetComputeCapability, soPath, spans, hreport, hcap,
      (host.mem_order _ _).mp hvisited, hpath, hspans, hfile⟩

/-- When `locate` returns on a report with one GPU, the file at each path is
the span file of the last library, in the order the loop visits the report's
libraries, that has a `.nv_fatbin` section and whose span path it is; every
other path holds what it held.  So of two libraries with one file name only
the one visited last keeps a span file. -/
theorem locate_files {report : TraceReport} {targetComputeCapability : Nat}
    (hreport : disk.files reportPath = some (.report report))
    (hcap : host.computeCapabilities = [targetComputeCapability])
    (hdone : (locate host fuel reportPath outputDir disk).2 = .done ()) (path : String) :
    (locate host fuel reportPath outputDir disk).1.files path =
      ((host.order report.loadedSos).reverse.findSome?
        (spanFileAt host fuel outputDir report.detectedKernels targetComputeCapability disk
          path)).or (disk.files path) := by
  rw [locate_eq_locateLoop hreport hcap] at hdone ⊢
  exact locateLoop_files _ writtenBy_start hdone path

end Commands

/-! ## A library on disk -/

/-- A library whose `.nv_fatbin` section, at file offset 4, is the fat binary
of `sampleRegion`. -/
def demoLibrary : List UInt8 := [0x7f, 0x45, 0x4c, 0x46] ++ serialize [sampleRegion] ++ [0, 0]

def demoLibraryElf : ElfFile where
  segments := some [⟨ptLoad, pfR ||| pfX, 0, 0, 0x1000⟩]
  sectionHeaderByName name := some (if name = ".nv_fatbin" then some ⟨4, 88⟩ else none)
  sectionData _ := none
  symbolTable := none
  dynamicSymbolTable := none

theorem head?_of_magic {α : Type} {data : List UInt8} {x a : α}
    (h : (if data.head? = some 0x7f then some x else none) = some a) : data.head? = some 0x7f := by
  by_contra hhead
  rw [if_neg hhead] at h
  cases h

/-- One GPU of compute capability 7.5; every file that starts with the ELF
magic's first byte parses as `demoLibraryElf`, and the JSON documents are
written as `{}`.  `cuobjdump` extracts one cubin, whose listing is
`demoListing`; sets are iterated in sorted order. -/
def demoHost : Host where
  parseElf data := if data.head? = some 0x7f then some demoLibraryElf else none
  parseElf_magic _ _ h := head?_of_magic h
  spanFileData _ _ := [0x7b, 0x7d]
  spanFileData_head _ _ := rfl
  reportData _ := [0x7b, 0x7d]
  reportData_head _ := rfl
  computeCapabilities := [75]
  cubinDir _ := "/tmp/cubins"
  extraction _ := some ⟨["Extracting ELF file    1: demo.sm_70.cubin"], true⟩
  isFile _ := true
  listing _ := some ⟨ElfListing.demoListing.lines, true⟩
  order s := s.sort (· ≤ ·)
  order_nodup s := Finset.sort_nodup _ s
  mem_order _ _ := Finset.mem_sort _

/-- The report of a run that loaded the library and launched `vecAdd`, and the
library itself. -/
def demoDisk : Disk :=
  ⟨fun path =>
    if path = "/work/trace.json" then
      some (.report ⟨{"vecAdd"}, {"/usr/lib/libdemo.so"}⟩)
    else if path = "/usr/lib/libdemo.so" then some (.bytes demoLibrary)
    else none⟩

theorem demoLocate_eq :
    locate demoHost 89 "/work/trace.json" "/work/spans" demoDisk =
      locateLoop demoHost 89 "/work/spans" {"vecAdd"} 75 demoDisk ["/usr/lib/libdemo.so"] := by
  rw [locate_eq_locateLoop rfl rfl]
  exact congrArg _ (Finset.sort_singleton _ _)

theorem demoLocate_eq_write :
    locate demoHost 89 "/work/trace.json" "/work/spans" demoDisk =
      (demoDisk.write "/work/spans/libdemo.so.json"
        (.spanFile "/usr/lib/libdemo.so" [⟨52, 56⟩, ⟨88, 92⟩]), .done ()) := by
  rw [demoLocate_eq]
  rfl

theorem demoLocate_done :
    (locate demoHost 89 "/work/trace.json" "/work/spans" demoDisk).2 = .done () := by
  rw [demoLocate_eq_write]

theorem demoLocate_changes_span_file :
    (locate demoHost 89 "/work/trace.json" "/work/spans" demoDisk).1.files
        "/work/spans/libdemo.so.json" ≠ demoDisk.files "/work/spans/libdemo.so.json" ∧
      ∃ report targetComputeCapability soPath spans,
        demoDisk.files "/work/trace.json" = some (.report report) ∧
        demoHost.computeCapabilities = [targetComputeCapability] ∧
        soPath ∈ report.loadedSos ∧ spanFilePath "/work/spans" soPath =
          "/work/spans/libdemo.so.json" ∧
        locateLibrary demoHost 89 demoDisk report.detectedKernels targetComputeCapability soPath =
          .done (some spans) ∧
        (locate demoHost 89 "/work/trace.json" "/work/spans" demoDisk).1.files
          "/work/spans/libdemo.so.json" = some (.spanFile soPath spans) :=
  have hchanged : (locate demoHost 89 "/work/trace.json" "/work/spans" demoDisk).1.files
      "/work/spans/libdemo.so.json" ≠ demoDisk.files "/work/spans/libdemo.so.json" := by
    rw [demoLocate_eq_write]
    decide
  ⟨hchanged, locate_changes_only_span_files hchanged⟩

theorem demoLocate_files :
    demoDisk.files "/work/trace.json" = some (.report ⟨{"vecAdd"}, {"/usr/lib/libdemo.so"}⟩) ∧
      demoHost.computeCapabilities = [75] ∧
      (locate demoHost 89 "/work/trace.json" "/work/spans" demoDisk).2 = .done () ∧
      ∀ path, (locate demoHost 89 "/work/trace.json" "/work/spans" demoDisk).1.files path =
        ((demoHost.order {"/usr/lib/libdemo.so"}).reverse.findSome?
          (spanFileAt demoHost 89 "/work/spans" {"vecAdd"} 75 demoDisk path)).or
          (demoDisk.files path) :=
  ⟨rfl, rfl, demoLocate_done, @locate_files demoHost 89 "/work/trace.json" "/work/spans" demoDisk
    ⟨{"vecAdd"}, {"/usr/lib/libdemo.so"}⟩ 75 rfl rfl demoLocate_done⟩

theorem demoLocate_spanFile_library :
    (locate demoHost 89 "/work/trace.json" "/work/spans" demoDisk).1.files
        "/work/spans/libdemo.so.json" =
        some (.spanFile "/usr/lib/libdemo.so" [⟨52, 56⟩, ⟨88, 92⟩]) ∧
      (locate demoHost 89 "/work/trace.json" "/work/spans" demoDisk).1.files
        "/usr/lib/libdemo.so" = some (.bytes demoLibrary) := by
  rw [demoLocate_eq_write]
  exact ⟨rfl, rfl⟩

/-- `reconstruct` of the library's span file into the library's own
directory. -/
theorem demoReconstruct_in_place :
    (locate demoHost 89 "/work/trace.json" "/work/spans" demoDisk).1.files
        "/work/spans/libdemo.so.json" =
        some (.spanFile "/usr/lib/libdemo.so" [⟨52, 56⟩, ⟨88, 92⟩]) ∧
      ((locate demoHost 89 "/work/trace.json" "/work/spans" demoDisk).1.files
        "/usr/lib/libdemo.so").isSome ∧
      "/usr/lib" ++ "/" ++ fileName "/usr/lib/libdemo.so" = "/usr/lib/libdemo.so" ∧
      (reconstruct demoHost "/work/spans/libdemo.so.json" "/usr/lib"
          (locate demoHost 89 "/work/trace.json" "/work/spans" demoDisk).1).1.files
          "/usr/lib/libdemo.so" = some (.bytes []) ∧
      ((reconstruct demoHost "/work/spans/libdemo.so.json" "/usr/lib"
          (locate demoHost 89 "/work/trace.json" "/work/spans" demoDisk).1).2 = .done () ↔
        ∀ span ∈ ([⟨52, 56⟩, ⟨88, 92⟩] : List ElementSpan), span.end ≤ span.start) ∧
      ∀ path ≠ "/usr/lib/libdemo.so", (reconstruct demoHost "/work/spans/libdemo.so.json"
          "/usr/lib" (locate demoHost 89 "/work/trace.json" "/work/spans" demoDisk).1).1.files
          path = (locate demoHost 89 "/work/trace.json" "/work/spans" demoDisk).1.files path :=
  have hlib : ((locate demoHost 89 "/work/trace.json" "/work/spans" demoDisk).1.files
      "/usr/lib/libdemo.so").isSome := by rw [demoLocate_spanFile_library.2]; rfl
  have hdst : "/usr/lib" ++ "/" ++ fileName "/usr/lib/libdemo.so" = "/usr/lib/libdemo.so" := by
    decide
  ⟨demoLocate_spanFile_library.1, hlib, hdst,
    reconstruct_in_place_empties_library demoLocate_spanFile_library.1 hlib hdst⟩

end NegativaMl
