import NegativaMl.LocatorTables
import Mathlib.Data.List.Basic

/-!
# The kernels of a cubin, from its `cuobjdump -elf` listing

`KernelLocator::extract_cubin_kernels` reads the listing line by line with two
flags: the section table runs from "Sections:" to the next blank line, the
symbol table from ".section .symtab" to the next blank line, where the loop
stops.  A section ".text.k" names the kernel `k`, and the symbol rows are
searched for the cuBLAS internal-constants symbol.  On every listing of the
shape the tool expects, the function returns exactly these kernels.

The cubin files come from `KernelLocator::extract_all_cubins`, which keeps the
second `:`-separated field of each line `cuobjdump -xelf all` prints, joined to
the target directory, and panics when the process fails.
-/

namespace NegativaMl

/-! ## Rust's string operations -/

/-- `char::is_whitespace`: a space, a control character from tab to carriage
return, or above ASCII a character of the Unicode property `White_Space`. -/
def isWhitespace (c : Char) : Bool :=
  c.toNat == 0x20 || (0x09 ≤ c.toNat && c.toNat ≤ 0x0d) ||
    (0x7f < c.toNat && (c.toNat == 0x85 || c.toNat == 0xa0 || c.toNat == 0x1680 ||
      (0x2000 ≤ c.toNat && c.toNat ≤ 0x200a) || c.toNat == 0x2028 || c.toNat == 0x2029 ||
      c.toNat == 0x202f || c.toNat == 0x205f || c.toNat == 0x3000))

def strTrim (line : String) : String :=
  ⟨((line.toList.dropWhile isWhitespace).reverse.dropWhile isWhitespace).reverse⟩

/-- `str::split_whitespace`, that is `split(char::is_whitespace)` with the empty
pieces filtered out. -/
def splitWhitespace (line : String) : List String :=
  ((line.toList.splitOnP isWhitespace).filter fun piece => !piece.isEmpty).map String.mk

def strStartsWith (s pat : String) : Bool :=
  decide (pat.toList <+: s.toList)

/-- `str::strip_prefix`: what follows `pat` in `s`, when `s` starts with it. -/
def strStripPrefix (s pat : String) : Option String :=
  if pat.toList <+: s.toList then some ⟨s.toList.drop pat.length⟩ else none

def strSplit (c : Char) (s : String) : List String :=
  (s.toList.splitOnP (· == c)).map String.mk

theorem isWhitespace_of_strTrim_eq_empty {line : String} (h : strTrim line = "") :
    ∀ c ∈ line.toList, isWhitespace c := by
  have hrest : ((line.toList.dropWhile isWhitespace).reverse.dropWhile isWhitespace).reverse =
      [] := congrArg String.toList h
  rw [List.reverse_eq_nil_iff, List.dropWhile_eq_nil_iff] at hrest
  have hdrop : line.toList.dropWhile isWhitespace = [] := by
    by_contra hne
    have hhead := List.head_dropWhile_not isWhitespace line.toList hne
    rw [hrest _ (List.mem_reverse.mpr (List.head_mem hne))] at hhead
    cases hhead
  exact List.dropWhile_eq_nil_iff.mp hdrop

theorem splitOnP_isWhitespace_filter {chars : List Char} (h : ∀ c ∈ chars, isWhitespace c) :
    (chars.splitOnP isWhitespace).filter (fun piece => !piece.isEmpty) = [] := by
  induction chars with
  | nil => rfl
  | cons c chars ih =>
    obtain ⟨hc, h⟩ := List.forall_mem_cons.mp h
    rw [List.splitOnP_cons, if_pos hc, List.filter_cons_of_neg (by simp)]
    exact ih h

theorem strTrim_ne_empty_of_field {line : String} (h : 0 < (splitWhitespace line).length) :
    strTrim line ≠ "" := fun hblank => by
  rw [splitWhitespace, splitOnP_isWhitespace_filter
    (isWhitespace_of_strTrim_eq_empty hblank)] at h
  cases h

theorem strStripPrefix_eq_some {s pat rest : String} :
    strStripPrefix s pat = some rest ↔ s = pat ++ rest := by
  unfold strStripPrefix
  constructor
  · intro h
    split at h
    · obtain ⟨tail, htail⟩ := ‹pat.toList <+: s.toList›
      cases h
      apply String.ext
      show s.toList = pat.toList ++ s.toList.drop pat.toList.length
      rw [← htail, List.drop_left' rfl]
    · cases h
  · rintro rfl
    rw [if_pos ⟨rest.toList, (String.data_append _ _).symm⟩]
    exact congrArg some (String.ext (List.drop_left' rfl))

/-! ## The line loop -/

/-- The loop's state: its two flags and the lines kept for each table. -/
structure LineScan where
  isSectionStart : Bool
  isSymtabStart : Bool
  sectionHeaderOutput : List String
  symtableOutput : List String

namespace LineScan

def initial : LineScan := ⟨false, false, [], []⟩

/-- One pass of the loop over `reader.lines()`; `none` is its `break`. -/
def step (scan : LineScan) (line : String) : Option LineScan :=
  if scan.isSectionStart then
    if strTrim line = "" then some { scan with isSectionStart := false }
    else some { scan with sectionHeaderOutput := scan.sectionHeaderOutput ++ [line] }
  else if scan.isSymtabStart then
    if strTrim line = "" then none
    else some { scan with symtableOutput := scan.symtableOutput ++ [line] }
  else if strTrim line = "Sections:" then some { scan with isSectionStart := true }
  else if strTrim line = ".section .symtab" then
    some { scan with isSymtabStart := true, isSectionStart := false }
  else some scan

/-- The loop: one step per line, to the end of the output or a `break`. -/
def run (scan : LineScan) : List String → LineScan
  | [] => scan
  | line :: lines =>
    match scan.step line with
    | some next => next.run lines
    | none => scan

def Unmarked (line : String) : Prop :=
  strTrim line ≠ "Sections:" ∧ strTrim line ≠ ".section .symtab"

instance (line : String) : Decidable (Unmarked line) :=
  inferInstanceAs (Decidable (_ ∧ _))

theorem run_cons_of_step {scan next : LineScan} {line : String} {lines : List String}
    (h : scan.step line = some next) : scan.run (line :: lines) = next.run lines := by
  rw [run, h]

/-! Each transition of the loop, as the lines it reads. -/

variable {line : String} {sections symbols lines rest : List String} {isSymtabStart : Bool}

theorem step_unmarked (h : Unmarked line) :
    (⟨false, false, sections, symbols⟩ : LineScan).step line =
      some ⟨false, false, sections, symbols⟩ := by
  simp [step, h.1, h.2]

theorem step_sectionsLine (h : strTrim line = "Sections:") :
    (⟨false, false, sections, symbols⟩ : LineScan).step line =
      some ⟨true, false, sections, symbols⟩ := by
  simp [step, h]

theorem step_sectionRow (h : strTrim line ≠ "") :
    (⟨true, isSymtabStart, sections, symbols⟩ : LineScan).step line =
      some ⟨true, isSymtabStart, sections ++ [line], symbols⟩ := by
  simp [step, h]

theorem step_sectionsEnd (h : strTrim line = "") :
    (⟨true, isSymtabStart, sections, symbols⟩ : LineScan).step line =
      some ⟨false, isSymtabStart, sections, symbols⟩ := by
  simp [step, h]

theorem step_symtabLine (h : strTrim line = ".section .symtab") :
    (⟨false, false, sections, symbols⟩ : LineScan).step line =
      some ⟨false, true, sections, symbols⟩ := by
  simp [step, h]

theorem step_symbolRow (h : strTrim line ≠ "") :
    (⟨false, true, sections, symbols⟩ : LineScan).step line =
      some ⟨false, true, sections, symbols ++ [line]⟩ := by
  simp [step, h]

theorem step_symbolsEnd (h : strTrim line = "") :
    (⟨false, true, sections, symbols⟩ : LineScan).step line = none := by
  simp [step, h]

theorem run_unmarked (hlines : ∀ line ∈ lines, Unmarked line) :
    (⟨false, false, sections, symbols⟩ : LineScan).run (lines ++ rest) =
      (⟨false, false, sections, symbols⟩ : LineScan).run rest := by
  induction lines with
  | nil => rfl
  | cons line lines ih =>
    obtain ⟨hline, hlines⟩ := List.forall_mem_cons.mp hlines
    rw [List.cons_append, run_cons_of_step (step_unmarked hline)]
    exact ih hlines

theorem run_sectionRows (hlines : ∀ line ∈ lines, strTrim line ≠ "") :
    (⟨true, isSymtabStart, sections, symbols⟩ : LineScan).run (lines ++ rest) =
      (⟨true, isSymtabStart, sections ++ lines, symbols⟩ : LineScan).run rest := by
  induction lines generalizing sections with
  | nil => rw [List.nil_append, List.append_nil]
  | cons line lines ih =>
    obtain ⟨hline, hlines⟩ := List.forall_mem_cons.mp hlines
    rw [List.cons_append, run_cons_of_step (step_sectionRow hline), ih hlines, List.append_assoc,
      List.singleton_append]

theorem run_symbolRows (hlines : ∀ line ∈ lines, strTrim line ≠ "") :
    (⟨false, true, sections, symbols⟩ : LineScan).run (lines ++ rest) =
      (⟨false, true, sections, symbols ++ lines⟩ : LineScan).run rest := by
  induction lines generalizing symbols with
  | nil => rw [List.nil_append, List.append_nil]
  | cons line lines ih =>
    obtain ⟨hline, hlines⟩ := List.forall_mem_cons.mp hlines
    rw [List.cons_append, run_cons_of_step (step_symbolRow hline), ih hlines, List.append_assoc,
      List.singleton_append]

end LineScan

/-! ## The two tables -/

/-- The loop over the section rows: the tenth field of each row
(`nth(9).unwrap()`, a panic on a shorter row), and for a field that starts with
".text." the rest of it, as a kernel name. -/
def addSectionKernels (kernelNames : Finset String) : List String → Option (Finset String)
  | [] => some kernelNames
  | line :: lines => do
    let shName ← (splitWhitespace line)[9]?
    if strStartsWith shName ".text." then
      let name ← strStripPrefix shName ".text."
      addSectionKernels (insert name kernelNames) lines
    else addSectionKernels kernelNames lines

/-- The loop over the symbol rows: a row with fewer than seven fields is
skipped (`continue`, after a warning), and the loop stops at the first row whose
seventh field is the internal-constants symbol, after adding it. -/
def addInternalConstant (kernelNames : Finset String) : List String → Finset String
  | [] => kernelNames
  | line :: lines =>
    match (splitWhitespace line)[6]? with
    | none => addInternalConstant kernelNames lines
    | some stName =>
      if stName = cublasInternalConstant then insert stName kernelNames
      else addInternalConstant kernelNames lines

/-- `KernelLocator::extract_cubin_kernels` on the lines of the listing; `none`
is a panic.  Each table's first kept line is its header row, which
`[1..]` skips, and which must be there. -/
def extractCubinKernels (lines : List String) : Option (Finset String) := do
  let scan := LineScan.initial.run lines
  let sectionRows ← sliceFrom scan.sectionHeaderOutput 1
  let kernelNames ← addSectionKernels ∅ sectionRows
  let symbolRows ← sliceFrom scan.symtableOutput 1
  pure (addInternalConstant kernelNames symbolRows)

/-- A kernel of a section row: the row's tenth field is ".text." followed by it. -/
def SectionKernel (rows : List String) (name : String) : Prop :=
  ∃ row ∈ rows, ∃ shName, (splitWhitespace row)[9]? = some shName ∧ shName = ".text." ++ name

/-- A symbol row names the internal-constants symbol in its seventh field. -/
def NamesInternalConstant (rows : List String) : Prop :=
  ∃ row ∈ rows, (splitWhitespace row)[6]? = some cublasInternalConstant

theorem string_append_right_inj (pat : String) {s t : String} : pat ++ s = pat ++ t ↔ s = t :=
  ⟨fun h => String.ext ((List.append_right_inj pat.data).mp
    (by rw [← String.data_append, ← String.data_append, h])), congrArg _⟩

theorem sectionKernel_cons {row shName name : String} {rows : List String}
    (h : (splitWhitespace row)[9]? = some shName) :
    SectionKernel (row :: rows) name ↔ shName = ".text." ++ name ∨ SectionKernel rows name := by
  simp only [SectionKernel, List.exists_mem_cons_iff, h, Option.some.injEq, exists_eq_left']

/-- On rows of ten fields or more the loop does not panic, and adds the kernels
of the `.text.` sections. -/
theorem addSectionKernels_eq {rows : List String}
    (hrows : ∀ row ∈ rows, 10 ≤ (splitWhitespace row).length) (kernelNames : Finset String) :
    ∃ kernels, addSectionKernels kernelNames rows = some kernels ∧
      ∀ name, name ∈ kernels ↔ name ∈ kernelNames ∨ SectionKernel rows name := by
  induction rows generalizing kernelNames with
  | nil => exact ⟨kernelNames, rfl, fun name => by simp [SectionKernel]⟩
  | cons row rows ih =>
    obtain ⟨hrow, hrows'⟩ := List.forall_mem_cons.mp hrows
    obtain ⟨shName, hshName⟩ : ∃ shName, (splitWhitespace row)[9]? = some shName :=
      ⟨_, List.getElem?_eq_getElem hrow⟩
    by_cases htext : ∃ name, shName = ".text." ++ name
    · obtain ⟨name, rfl⟩ := htext
      obtain ⟨kernels, hkernels, hmem⟩ := ih hrows' (insert name kernelNames)
      have hstarts : strStartsWith (".text." ++ name) ".text." = true :=
        decide_eq_true ⟨name.data, (String.data_append _ _).symm⟩
      refine ⟨kernels, ?_, fun name' => ?_⟩
      · simp only [addSectionKernels, hshName, Option.bind_eq_bind, Option.some_bind, hstarts,
          if_true, strStripPrefix_eq_some.mpr rfl, hkernels]
      · rw [hmem, sectionKernel_cons hshName, Finset.mem_insert, string_append_right_inj, eq_comm,
          or_assoc, or_left_comm]
    · obtain ⟨kernels, hkernels, hmem⟩ := ih hrows' kernelNames
      have hstarts : strStartsWith shName ".text." = false := Bool.eq_false_iff.mpr fun h =>
        htext ⟨_, strStripPrefix_eq_some.mp (if_pos (of_decide_eq_true h))⟩
      refine ⟨kernels, by simp [addSectionKernels, hshName, hstarts, hkernels], fun name => ?_⟩
      rw [hmem, sectionKernel_cons hshName]
      exact ⟨Or.imp_right Or.inr, Or.imp_right (Or.resolve_left · fun h => htext ⟨name, h⟩)⟩

/-- The loop over the symbol rows adds the internal-constants symbol exactly
when some row names it. -/
theorem mem_addInternalConstant {kernelNames : Finset String} {rows : List String}
    {name : String} : name ∈ addInternalConstant kernelNames rows ↔
      name ∈ kernelNames ∨ (name = cublasInternalConstant ∧ NamesInternalConstant rows) := by
  induction rows with
  | nil => simp [addInternalConstant, NamesInternalConstant]
  | cons row rows ih =>
    unfold NamesInternalConstant at ih ⊢
    rw [List.exists_mem_cons_iff, addInternalConstant]
    split
    · next hnone => rw [ih, hnone]; simp
    · next stName hst =>
      split_ifs with hconst
      · subst hconst
        simp [hst, or_comm]
      · rw [ih, hst, Option.some.injEq, eq_false hconst, false_or]

/-! ## Listings of the expected shape -/

/-- A `cuobjdump -elf` listing of the shape the tool expects, cut into its
parts: lines with no marker; "Sections:"; the table's header row and its
section rows of ten fields or more; a blank line; lines with no marker;
".section .symtab"; the header row and the symbol rows, none blank; then the end
of the output, or a blank line and whatever follows it. -/
structure ElfListing where
  leading : List String
  sectionsLine : String
  sectionHeader : String
  sectionRows : List String
  sectionsEnd : String
  between : List String
  symtabLine : String
  symbolHeader : String
  symbolRows : List String
  trailing : List String
  leading_unmarked : ∀ line ∈ leading, LineScan.Unmarked line
  sectionsLine_trim : strTrim sectionsLine = "Sections:"
  sectionHeader_nonblank : strTrim sectionHeader ≠ ""
  sectionRows_fields : ∀ row ∈ sectionRows, 10 ≤ (splitWhitespace row).length
  sectionsEnd_blank : strTrim sectionsEnd = ""
  between_unmarked : ∀ line ∈ between, LineScan.Unmarked line
  symtabLine_trim : strTrim symtabLine = ".section .symtab"
  symbolHeader_nonblank : strTrim symbolHeader ≠ ""
  symbolRows_nonblank : ∀ row ∈ symbolRows, strTrim row ≠ ""
  trailing_ends : trailing = [] ∨ ∃ blank rest, trailing = blank :: rest ∧ strTrim blank = ""

namespace ElfListing

def lines (listing : ElfListing) : List String :=
  listing.leading ++ listing.sectionsLine :: (listing.sectionHeader :: listing.sectionRows) ++
    listing.sectionsEnd :: listing.between ++ listing.symtabLine ::
      (listing.symbolHeader :: listing.symbolRows) ++ listing.trailing

/-- The loop keeps the two tables, header rows first, and nothing else. -/
theorem run_lines (listing : ElfListing) :
    LineScan.initial.run listing.lines = ⟨false, true, listing.sectionHeader :: listing.sectionRows,
      listing.symbolHeader :: listing.symbolRows⟩ := by
  have hsectionRows : ∀ row ∈ listing.sectionHeader :: listing.sectionRows, strTrim row ≠ "" :=
    List.forall_mem_cons.mpr ⟨listing.sectionHeader_nonblank, fun row hrow =>
      strTrim_ne_empty_of_field (Nat.lt_of_lt_of_le (by decide) (listing.sectionRows_fields row hrow))⟩
  have hsymbolRows : ∀ row ∈ listing.symbolHeader :: listing.symbolRows, strTrim row ≠ "" :=
    List.forall_mem_cons.mpr ⟨listing.symbolHeader_nonblank, listing.symbolRows_nonblank⟩
  simp only [lines, List.append_assoc, List.cons_append]
  rw [LineScan.initial, LineScan.run_unmarked listing.leading_unmarked,
    LineScan.run_cons_of_step (LineScan.step_sectionsLine listing.sectionsLine_trim),
    ← List.cons_append, LineScan.run_sectionRows hsectionRows,
    LineScan.run_cons_of_step (LineScan.step_sectionsEnd listing.sectionsEnd_blank),
    LineScan.run_unmarked listing.between_unmarked,
    LineScan.run_cons_of_step (LineScan.step_symtabLine listing.symtabLine_trim),
    ← List.cons_append, LineScan.run_symbolRows hsymbolRows, List.nil_append, List.nil_append]
  rcases listing.trailing_ends with htrailing | ⟨blank, rest, htrailing, hblank⟩
  · rw [htrailing]
    rfl
  · rw [htrailing, LineScan.run, LineScan.step_symbolsEnd hblank]

/-- After the loop, the two slices skip the header rows, and the set is what
the two table loops make of the rows. -/
theorem extractCubinKernels_lines_eq (listing : ElfListing) {kernels : Finset String}
    (hkernels : addSectionKernels ∅ listing.sectionRows = some kernels) :
    extractCubinKernels listing.lines =
      some (addInternalConstant kernels listing.symbolRows) := by
  have hslice : ∀ (header : String) (rows : List String), sliceFrom (header :: rows) 1 = some rows :=
    fun _ _ => sliceFrom_of_le (Nat.succ_le_succ (Nat.zero_le _))
  simp only [extractCubinKernels, listing.run_lines, hslice, Option.bind_eq_bind,
    Option.some_bind, hkernels]
  rfl

/-- Whatever set `extract_cubin_kernels` returns on such a listing holds the
kernels of the `.text.` sections, and the internal-constants symbol when a
symbol row names it, and nothing else. -/
theorem mem_of_extractCubinKernels {listing : ElfListing} {kernels : Finset String}
    (h : extractCubinKernels listing.lines = some kernels) (name : String) :
    name ∈ kernels ↔ SectionKernel listing.sectionRows name ∨
      (name = cublasInternalConstant ∧ NamesInternalConstant listing.symbolRows) := by
  obtain ⟨sectionKernels, hkernels, hmem⟩ := addSectionKernels_eq listing.sectionRows_fields ∅
  rw [extractCubinKernels_lines_eq listing hkernels, Option.some.injEq] at h
  rw [← h, mem_addInternalConstant, hmem, eq_false (Finset.not_mem_empty name), false_or]

/-- On every listing of the expected shape, `extract_cubin_kernels` returns
without a panic, and its set is the kernels of the `.text.` sections, with the
internal-constants symbol when a symbol row names it. -/
theorem extractCubinKernels_lines (listing : ElfListing) :
    ∃ kernels, extractCubinKernels listing.lines = some kernels ∧
      ∀ name, name ∈ kernels ↔ SectionKernel listing.sectionRows name ∨
        (name = cublasInternalConstant ∧ NamesInternalConstant listing.symbolRows) := by
  obtain ⟨sectionKernels, hkernels, -⟩ := addSectionKernels_eq listing.sectionRows_fields ∅
  exact ⟨_, extractCubinKernels_lines_eq listing hkernels,
    mem_of_extractCubinKernels (extractCubinKernels_lines_eq listing hkernels)⟩

/-- The shape of the listing of a cubin with one kernel: a string table, the
kernel's code section, and a symbol table without the internal constants. -/
def demoListing : ElfListing where
  leading := ["arch = sm_70", ""]
  sectionsLine := "Sections:"
  sectionHeader := "Index Offset   Size ES Align        Type   Flags Link     Info Name"
  sectionRows :=
    ["    1     40    2d7  0  1            STRTAB       0    0        0 .shstrtab",
     "   12    6c0    100  0 80          PROGBITS      6    3 1a000006 .text._Z12matrixMulGPUPiS_S_iii"]
  sectionsEnd := ""
  between := [".section .strtab", ""]
  symtabLine := ".section .symtab"
  symbolHeader := " Index Value             Size      Type  Bind  Other Shndx Name"
  symbolRows :=
    ["     0     0                 0     NOTYPE LOCAL  U0    UND",
     "    10     0               256       FUNC GLOBAL  U0    12 _Z12matrixMulGPUPiS_S_iii"]
  trailing := [""]
  leading_unmarked := by decide
  sectionsLine_trim := by decide
  sectionHeader_nonblank := by decide
  sectionRows_fields := by decide
  sectionsEnd_blank := by decide
  between_unmarked := by decide
  symtabLine_trim := by decide
  symbolHeader_nonblank := by decide
  symbolRows_nonblank := by decide
  trailing_ends := .inr ⟨"", [], rfl, by decide⟩

theorem demoListing_kernels :
    ∃ kernels, extractCubinKernels demoListing.lines = some kernels ∧
      ∀ name, name ∈ kernels ↔ SectionKernel demoListing.sectionRows name ∨
        (name = cublasInternalConstant ∧ NamesInternalConstant demoListing.symbolRows) :=
  extractCubinKernels_lines demoListing

example : extractCubinKernels demoListing.lines = some {"_Z12matrixMulGPUPiS_S_iii"} := by
  decide

end ElfListing

/-! ## The extracted cubin files -/

def splitColon (line : String) : List String :=
  strSplit ':' line

/-- `Path::new(dir).join(file)` on Unix, as `PathBuf::push` builds it: an
absolute `file` replaces `dir`; otherwise a separator goes between them unless
`dir` is empty or already ends with one. -/
def pathJoin (dir file : String) : String :=
  if strStartsWith file "/" then file
  else if dir.toList.getLast?.all (· == '/') then dir ++ file
  else dir ++ "/" ++ file

/-- The loop of `KernelLocator::extract_all_cubins` over the lines
`cuobjdump -xelf all` prints: the second `:`-separated field of each line
(`ele[1]`, a panic on a line without `:`), trimmed and joined to the target
directory, is kept when it is a file. -/
def extractAllCubinsLoop (isFile : String → Bool) (targetDir : String) :
    List String → List String → Option (List String)
  | cubinFilePaths, [] => some cubinFilePaths
  | cubinFilePaths, line :: lines => do
    let filename ← (splitColon line)[1]?
    let path := pathJoin targetDir (strTrim filename)
    extractAllCubinsLoop isFile targetDir
      (if isFile path then cubinFilePaths ++ [path] else cubinFilePaths) lines

/-- What a `cuobjdump` process gives the program: the lines of its standard
output as `BufRead::lines` yields them, and whether its exit status is
success. -/
structure CuobjdumpRun where
  lines : List String
  success : Bool

/-- `KernelLocator::extract_all_cubins` on the run of `cuobjdump -xelf all`
(`none` when it cannot be spawned or waited for, and `expect` or `unwrap`
panics), with `isFile` for `Path::is_file`: the loop over the lines, then the
panic on an exit status other than success.  `none` is a panic. -/
def extractAllCubins (isFile : String → Bool) (targetDir : String)
    (run : Option CuobjdumpRun) : Option (List String) := do
  let run ← run
  let cubinFilePaths ← extractAllCubinsLoop isFile targetDir [] run.lines
  if run.success then some cubinFilePaths else none

def cubinPathOf (targetDir line : String) : Option String :=
  (splitColon line)[1]?.map fun filename => pathJoin targetDir (strTrim filename)

theorem extractAllCubinsLoop_eq {isFile : String → Bool} {targetDir : String} :
    ∀ {lines : List String} (cubinFilePaths : List String),
      (∀ line ∈ lines, (cubinPathOf targetDir line).isSome) →
      extractAllCubinsLoop isFile targetDir cubinFilePaths lines =
        some (cubinFilePaths ++ (lines.filterMap (cubinPathOf targetDir)).filter isFile)
  | [], cubinFilePaths, _ => by simp [extractAllCubinsLoop]
  | line :: lines, cubinFilePaths, hlines => by
    obtain ⟨hline, hlines⟩ := List.forall_mem_cons.mp hlines
    obtain ⟨path, hpath⟩ := Option.isSome_iff_exists.mp hline
    obtain ⟨filename, hfilename, rfl⟩ := Option.map_eq_some'.mp hpath
    rw [extractAllCubinsLoop, hfilename, Option.bind_eq_bind, Option.some_bind,
      extractAllCubinsLoop_eq _ hlines, List.filterMap_cons, hpath]
    by_cases hfile : isFile (pathJoin targetDir (strTrim filename)) <;>
      simp [hfile, cubinPathOf, hfilename]

/-- On a run whose every line has a `:`, `extract_all_cubins` returns the paths
the lines name that are files, in the order of the lines, when `cuobjdump`
exits with success, and panics when it does not; on a line without `:` it
panics. -/
theorem extractAllCubins_eq {isFile : String → Bool} {targetDir : String} {lines : List String}
    (hlines : ∀ line ∈ lines, (cubinPathOf targetDir line).isSome) (success : Bool) :
    extractAllCubins isFile targetDir (some ⟨lines, success⟩) =
      if success then some ((lines.filterMap (cubinPathOf targetDir)).filter isFile) else none := by
  simp only [extractAllCubins, extractAllCubinsLoop_eq [] hlines, List.nil_append,
    Option.bind_eq_bind, Option.some_bind]

theorem strTrim_space_append (s : String) : strTrim (" " ++ s) = strTrim s := by
  show String.mk _ = String.mk _
  rw [show (" " ++ s).toList = ' ' :: s.toList from rfl,
    List.dropWhile_cons_of_pos (show isWhitespace ' ' = true by decide)]

theorem cubinPathOf_extracting {targetDir pre name : String} (hpre : ':' ∉ pre.toList)
    (hname : ':' ∉ name.toList) (htrim : strTrim name = name)
    (hrelative : strStartsWith name "/" = false)
    (hdir : targetDir.toList.getLast?.all (· == '/') = false) :
    cubinPathOf targetDir (pre ++ ": " ++ name) = some (targetDir ++ "/" ++ name) := by
  have hcolon : ∀ {chars : List Char}, ':' ∉ chars → ∀ c ∈ chars, ¬(c == ':') = true :=
    fun hchars c hc heq => hchars (beq_iff_eq.mp heq ▸ hc)
  have hsplit : splitColon (pre ++ ": " ++ name) = [pre, " " ++ name] := by
    have hchars : (pre ++ ": " ++ name).toList = pre.toList ++ ':' :: (' ' :: name.toList) := by
      simp only [String.toList, String.data_append, List.append_assoc, List.cons_append,
        List.nil_append]
    rw [splitColon, strSplit, hchars, List.splitOnP_first _ _ (hcolon hpre) ':' rfl,
      List.splitOnP_eq_single _ _ (hcolon (by simpa using hname))]
    rfl
  rw [cubinPathOf, hsplit, List.getElem?_cons_succ, List.getElem?_cons_zero, Option.map_some',
    strTrim_space_append, htrim, pathJoin, if_neg (by rw [hrelative]; decide), if_neg
    (by rw [hdir]; decide)]

/-- On a run of `cuobjdump` that prints one `Extracting ELF file    k: name`
line per extracted file, `extract_all_cubins` returns the files' paths inside
the target directory, in the order of the lines, keeping those that are files,
when `cuobjdump` exits with success; on any other exit status it panics. -/
theorem extractAllCubins_extracting {isFile : String → Bool} {targetDir : String}
    {entries : List (String × String)}
    (hentries : ∀ entry ∈ entries, ':' ∉ entry.1.toList ∧ ':' ∉ entry.2.toList ∧
      strTrim entry.2 = entry.2 ∧ strStartsWith entry.2 "/" = false)
    (hdir : targetDir.toList.getLast?.all (· == '/') = false) (success : Bool) :
    extractAllCubins isFile targetDir
        (some ⟨entries.map fun entry => entry.1 ++ ": " ++ entry.2, success⟩) =
      if success then some ((entries.map fun entry => targetDir ++ "/" ++ entry.2).filter isFile)
      else none := by
  have hpath : ∀ entry ∈ entries, cubinPathOf targetDir (entry.1 ++ ": " ++ entry.2) =
      some (targetDir ++ "/" ++ entry.2) := fun entry hentry =>
    let ⟨hpre, hname, htrim, hrelative⟩ := hentries entry hentry
    cubinPathOf_extracting hpre hname htrim hrelative hdir
  have hsome : ∀ line ∈ entries.map (fun entry => entry.1 ++ ": " ++ entry.2),
      (cubinPathOf targetDir line).isSome :=
    List.forall_mem_map.mpr fun entry hentry => by rw [hpath entry hentry]; rfl
  have hnames : (entries.filterMap fun entry => cubinPathOf targetDir (entry.1 ++ ": " ++ entry.2)) =
      entries.filterMap fun entry => some (targetDir ++ "/" ++ entry.2) :=
    List.filterMap_congr hpath
  rw [extractAllCubins_eq hsome, List.filterMap_map, ← List.filterMap_eq_map]
  exact congrArg (fun paths => if success then some (paths.filter isFile) else none) hnames

theorem extractAllCubins_twoCubins :
    (extractAllCubins (· == "/tmp/cubins/libdemo.1.sm_70.cubin") "/tmp/cubins"
        (some ⟨[("Extracting ELF file    1", "libdemo.1.sm_70.cubin"),
          ("Extracting ELF file    2", "libdemo.2.sm_80.cubin")].map
            fun entry => entry.1 ++ ": " ++ entry.2, true⟩) =
      if true then some (([("Extracting ELF file    1", "libdemo.1.sm_70.cubin"),
          ("Extracting ELF file    2", "libdemo.2.sm_80.cubin")].map
            fun entry => "/tmp/cubins" ++ "/" ++ entry.2).filter
        (· == "/tmp/cubins/libdemo.1.sm_70.cubin")) else none) ∧
      extractAllCubins (· == "/tmp/cubins/libdemo.1.sm_70.cubin") "/tmp/cubins"
        (some ⟨[("Extracting ELF file    1", "libdemo.1.sm_70.cubin"),
          ("Extracting ELF file    2", "libdemo.2.sm_80.cubin")].map
            fun entry => entry.1 ++ ": " ++ entry.2, false⟩) =
      if false then some (([("Extracting ELF file    1", "libdemo.1.sm_70.cubin"),
          ("Extracting ELF file    2", "libdemo.2.sm_80.cubin")].map
            fun entry => "/tmp/cubins" ++ "/" ++ entry.2).filter
        (· == "/tmp/cubins/libdemo.1.sm_70.cubin")) else none :=
  ⟨extractAllCubins_extracting (by decide) (by decide) true,
    extractAllCubins_extracting (by decide) (by decide) false⟩

/-! ## In the locator -/

/-- A locator built on the `cuobjdump -elf` listings of its cubin files, of
the expected shape, records for every cubin element the kernels of its own
file's listing: those of its `.text.` sections, and the internal-constants
symbol when a symbol row names it. -/
theorem KernelLocator.getElementKernels_of_listings {soPath : String} {soData : List UInt8}
    {gpuCodeStartOffset gpuCodeSize fuel : Nat} {cubinPaths : List String}
    {listingOf : String → ElfListing} {locator : KernelLocator}
    (h : KernelLocator.new soPath soData gpuCodeStartOffset gpuCodeSize cubinPaths
      (fun path => extractCubinKernels (listingOf path).lines) fuel = .done locator)
    {i j : Nat} {region : Region} {element : Element}
    (hi : locator.gpuCode.regions[i]? = some region) (hj : region.elements[j]? = some element)
    (hcubin : element.header.fileType = 2) :
    ∃ path kernels, cubinPaths[locator.gpuCode.cubinsBefore i j]? = some path ∧
      locator.getElementKernels i j = some kernels ∧
      ∀ name, name ∈ kernels ↔ SectionKernel (listingOf path).sectionRows name ∨
        (name = cublasInternalConstant ∧ NamesInternalConstant (listingOf path).symbolRows) := by
  obtain ⟨kernels, hkernels, hentry⟩ := KernelLocator.getElementKernels_of_new h hi hj
  rw [if_neg (not_not.mpr hcubin)] at hentry
  cases hpath : cubinPaths[locator.gpuCode.cubinsBefore i j]? with
  | none =>
    rw [hpath] at hentry
    cases hentry
  | some path =>
    rw [hpath, Option.some_bind] at hentry
    exact ⟨path, kernels, rfl, hkernels, ElfListing.mem_of_extractCubinKernels hentry.symm⟩

theorem sampleRegion_element_kernels_of_listing :
    ∃ locator, KernelLocator.new "libdemo.so" (serialize [sampleRegion]) 0 88
        ["demo.sm_70.cubin"] (fun _ => extractCubinKernels ElfListing.demoListing.lines) 89 =
        .done locator ∧
      ∃ region element, locator.gpuCode.regions[0]? = some region ∧
        region.elements[0]? = some element ∧ element.header.fileType = 2 ∧
        ∃ path kernels, ["demo.sm_70.cubin"][locator.gpuCode.cubinsBefore 0 0]? = some path ∧
          locator.getElementKernels 0 0 = some kernels ∧
          ∀ name, name ∈ kernels ↔ SectionKernel ElfListing.demoListing.sectionRows name ∨
            (name = cublasInternalConstant ∧
              NamesInternalConstant ElfListing.demoListing.symbolRows) := by
  have h : KernelLocator.new "libdemo.so" (serialize [sampleRegion]) 0 88 ["demo.sm_70.cubin"]
      (fun _ => extractCubinKernels ElfListing.demoListing.lines) 89 = .done _ := rfl
  exact ⟨_, h, _, _, rfl, rfl, rfl,
    @KernelLocator.getElementKernels_of_listings "libdemo.so" (serialize [sampleRegion]) 0 88 89
      ["demo.sm_70.cubin"] (fun _ => ElfListing.demoListing) _ h 0 0 _ _ rfl rfl rfl⟩

end NegativaMl
