import NegativaMl.RustRuntime

/-!
# Symbol offsets and addresses in an ELF file

`Tracer::new` takes the addresses of `_dl_debug_state` and `_r_debug` from
`get_symbol_addr`, and the file offset of `_dl_debug_state` from
`get_symbol_offset`.  `ELF64::new` keeps one displacement, Δ of the first
loadable segment whose flags are exactly read and execute, and
`get_symbol_offset` subtracts it whichever segment the symbol lies in: a symbol
of a segment with another displacement, such as `_r_debug` in the loader's data
segment, gets an offset at which it is not stored.  `get_symbol_addr` adds Δ
back, so it returns the symbol's value.

The file is what `ElfBytes::minimal_parse` gives the reader; the parse of the
bytes is the `elf` crate's and is outside the model.
-/

namespace NegativaMl

def ptLoad : Nat := 1

def pfX : Nat := 1

def pfR : Nat := 4

/-- A program header: the fields the reader reads, and the extent of the
segment's bytes in the file. -/
structure ProgramHeader where
  pType : Nat
  pFlags : Nat
  pOffset : Nat
  pVaddr : Nat
  pFilesz : Nat
  deriving Repr, DecidableEq

structure Symbol where
  stName : Nat
  stValue : Nat
  deriving Repr, DecidableEq

structure SectionHeader where
  shOffset : Nat
  shSize : Nat
  deriving Repr, DecidableEq

/-- What the reader sees of a parsed ELF file.  `segments` is `segments()`,
`none` when the file has no program header table.  `sectionHeaderByName name`
is `section_header_by_name(name)`: `none` for its error, `some none` when no
section has that name; `sectionData` is `section_data`, `none` for its error.
A symbol table is `none` when it is missing or cannot be parsed. -/
structure ElfFile where
  segments : Option (List ProgramHeader)
  sectionHeaderByName : String → Option (Option SectionHeader)
  sectionData : SectionHeader → Option (List UInt8)
  symbolTable : Option (List Symbol)
  dynamicSymbolTable : Option (List Symbol)

/-- The data of the section `name`, as
`section_data(&section_header_by_name(name).unwrap().unwrap()).unwrap().0`
fetches it; `none` is a panic. -/
def ElfFile.sectionBytes (parsedElf : ElfFile) (name : String) : Option (List UInt8) := do
  let header ← (← parsedElf.sectionHeaderByName name)
  parsedElf.sectionData header

def ProgramHeader.isExecutableLoad (p : ProgramHeader) : Bool :=
  p.pType == ptLoad && p.pFlags == (pfR ||| pfX)

def ElfFile.executableSegment (parsedElf : ElfFile) : Option ProgramHeader :=
  parsedElf.segments.bind (List.find? ProgramHeader.isExecutableLoad)

structure ELF64 where
  parsedElf : ElfFile
  addrOffsetDiff : Int

namespace ELF64

/-- `ELF64::new` on the parsed file; `none` is a panic: no program header
table, no executable loadable segment, or an `i64` overflow in
`p_vaddr as i64 - p_offset as i64`. -/
def new (parsedElf : ElfFile) : Option ELF64 := do
  let segments ← parsedElf.segments
  let executablePhdr ← segments.find? ProgramHeader.isExecutableLoad
  let addrOffsetDiff ←
    checkedSubI64 (asI64 executablePhdr.pVaddr) (asI64 executablePhdr.pOffset)
  pure ⟨parsedElf, addrOffsetDiff⟩

/-- `while data[end] != 0 { end += 1 }`, run over the bytes from `end` on:
where it stops, or a panic when `end` leaves the data before a NUL. -/
def findNul : List UInt8 → Nat → Option Nat
  | [], _ => none
  | byte :: bytes, endPos => if byte = 0 then some endPos else findNul bytes (endPos + 1)

/-- The name bytes at `offset` of a string table, as `get_debug_symbol_bytes`
and `get_dyn_symbol_bytes` read them from the table's data: the scan to the
NUL, and `&data[offset..end]`. -/
def symbolBytesIn (strings : Option (List UInt8)) (offset : Nat) : Option (List UInt8) := do
  let data ← strings
  let endPos ← findNul (data.drop offset) offset
  slice data offset endPos

def getDebugSymbolBytes (elf : ELF64) (offset : Nat) : Option (List UInt8) :=
  symbolBytesIn (elf.parsedElf.sectionBytes ".strtab") offset

def getDynSymbolBytes (elf : ELF64) (offset : Nat) : Option (List UInt8) :=
  symbolBytesIn (elf.parsedElf.sectionBytes ".dynstr") offset

theorem getDebugSymbolBytes_eq (elf : ELF64) :
    elf.getDebugSymbolBytes = symbolBytesIn (elf.parsedElf.sectionBytes ".strtab") := rfl

theorem getDynSymbolBytes_eq (elf : ELF64) :
    elf.getDynSymbolBytes = symbolBytesIn (elf.parsedElf.sectionBytes ".dynstr") := rfl

/-- The loop of `get_symbol_offset` over one symbol table: the first symbol
whose name, read with `nameBytes`, is `symbolBytes`; the outer `none` is a
panic while reading a name. -/
def findSymbol (nameBytes : Nat → Option (List UInt8)) (symbolBytes : List UInt8) :
    List Symbol → Option (Option Symbol)
  | [] => some none
  | s :: symbols => do
    let foundSymBytes ← nameBytes s.stName
    if symbolBytes = foundSymBytes then pure (some s)
    else findSymbol nameBytes symbolBytes symbols

def findSymbolIn (nameBytes : Nat → Option (List UInt8)) (symbolBytes : List UInt8) :
    Option (List Symbol) → Option (Option Symbol)
  | some symbols => findSymbol nameBytes symbolBytes symbols
  | none => some none

/-- `get_symbol_offset`: `.symtab` first, then `.dynsym`, and for the symbol
found `s.st_value - self.addr_offset_diff as u64`; the outer `none` is a panic. -/
def getSymbolOffset (elf : ELF64) (symbolBytes : List UInt8) : Option (Option Nat) := do
  let inSymtab ← findSymbolIn elf.getDebugSymbolBytes symbolBytes elf.parsedElf.symbolTable
  let found ← match inSymtab with
    | some s => pure (some s)
    | none => findSymbolIn elf.getDynSymbolBytes symbolBytes elf.parsedElf.dynamicSymbolTable
  match found with
  | some s => some <$> checkedSub s.stValue (asU64 elf.addrOffsetDiff)
  | none => pure none

/-- `get_symbol_addr`: `(off as i64 + self.addr_offset_diff) as u64`. -/
def getSymbolAddr (elf : ELF64) (symbolBytes : List UInt8) : Option (Option Nat) := do
  match ← elf.getSymbolOffset symbolBytes with
  | some off => (fun addr => some (asU64 addr)) <$> checkedAddI64 (asI64 off) elf.addrOffsetDiff
  | none => pure none

/-- The lookups of one field of a named section's header: `None` when there is
no such section; `none` is the panic of `section_header_by_name(..).unwrap()`. -/
def sectionField (elf : ELF64) (sectionName : String) (field : SectionHeader → Nat) :
    Option (Option Nat) :=
  (elf.parsedElf.sectionHeaderByName sectionName).map (Option.map field)

def getSectionOffset (elf : ELF64) (sectionName : String) : Option (Option Nat) :=
  elf.sectionField sectionName SectionHeader.shOffset

def getSectionSize (elf : ELF64) (sectionName : String) : Option (Option Nat) :=
  elf.sectionField sectionName SectionHeader.shSize

def hasGpuCode (elf : ELF64) : Option Bool :=
  (elf.parsedElf.sectionHeaderByName ".nv_fatbin").map Option.isSome

def getGpuCodeOffset (elf : ELF64) : Option (Option Nat) :=
  elf.getSectionOffset ".nv_fatbin"

def getGpuCodeSize (elf : ELF64) : Option (Option Nat) :=
  elf.getSectionSize ".nv_fatbin"

/-- After `has_gpu_code` holds, as `locate` in `main.rs` checks, the two
`unwrap`s of the section's offset and size do not panic, and they read the
header of `.nv_fatbin`. -/
theorem gpuCode_of_hasGpuCode {elf : ELF64} (h : elf.hasGpuCode = some true) :
    ∃ header, elf.parsedElf.sectionHeaderByName ".nv_fatbin" = some (some header) ∧
      elf.getGpuCodeOffset = some (some header.shOffset) ∧
      elf.getGpuCodeSize = some (some header.shSize) := by
  unfold hasGpuCode at h
  obtain ⟨found, hfound, hsome⟩ := Option.map_eq_some'.mp h
  obtain ⟨header, rfl⟩ := Option.isSome_iff_exists.mp hsome
  exact ⟨header, hfound, by simp [getGpuCodeOffset, getSectionOffset, sectionField, hfound],
    by simp [getGpuCodeSize, getSectionSize, sectionField, hfound]⟩

/-! ## The name scan reads the NUL-terminated name -/

def nameAt (strings : Option (List UInt8)) (offset : Nat) : Option (List UInt8) :=
  strings.bind fun data => fromBytesUntilNul (data.drop offset)

theorem findNul_eq (bytes : List UInt8) (start : Nat) :
    findNul bytes start = (fromBytesUntilNul bytes).map fun name => start + name.length := by
  induction bytes generalizing start with
  | nil => rfl
  | cons byte bytes ih =>
    by_cases hbyte : byte = 0
    · subst hbyte
      simp [findNul, fromBytesUntilNul]
    · have hne : (byte != 0) = true := bne_iff_ne.mpr hbyte
      rw [findNul, if_neg hbyte, ih]
      unfold fromBytesUntilNul
      by_cases hzero : 0 ∈ bytes
      · rw [if_pos hzero, if_pos (List.mem_cons_of_mem _ hzero),
          @List.takeWhile_cons_of_pos _ (· != 0) byte bytes hne]
        simp only [Option.map_some', List.length_cons]
        exact congrArg some (by omega)
      · rw [if_neg hzero, if_neg fun h => (List.mem_cons.mp h).elim (fun h => hbyte h.symm) hzero]
        rfl

/-- The scan to the NUL and the slice read the NUL-terminated name, and panic
exactly when there is none. -/
theorem symbolBytesIn_eq_nameAt (strings : Option (List UInt8)) (offset : Nat) :
    symbolBytesIn strings offset = nameAt strings offset := by
  cases strings with
  | none => rfl
  | some data =>
    show (findNul (data.drop offset) offset).bind (slice data offset) =
      fromBytesUntilNul (data.drop offset)
    rw [findNul_eq]
    cases hname : fromBytesUntilNul (data.drop offset) with
    | none => rfl
    | some name =>
      obtain ⟨hzero, rfl⟩ := fromBytesUntilNul_eq_some hname
      have htake := @List.take_left' _ ((data.drop offset).takeWhile (· != 0))
        ((data.drop offset).dropWhile (· != 0)) _ rfl
      rw [List.takeWhile_append_dropWhile] at htake
      have hlen := congrArg List.length (List.takeWhile_append_dropWhile (· != 0) (data.drop offset))
      have hpos : 0 < (data.drop offset).length := List.length_pos_of_mem hzero
      simp only [List.length_append, List.length_drop] at hlen hpos
      rw [Option.map_some', Option.some_bind, slice_of_le (by omega) (by omega),
        Nat.add_sub_cancel_left, htake]

/-! ## The search -/

/-- `sym` is the first symbol of `symbols` whose name in the string table
`strings` is `symbolBytes`, and the names of the symbols before it are
NUL-terminated inside the table. -/
def FirstNamed (strings : Option (List UInt8)) (symbolBytes : List UInt8)
    (symbols : List Symbol) (sym : Symbol) : Prop :=
  ∃ before after, symbols = before ++ sym :: after ∧
    nameAt strings sym.stName = some symbolBytes ∧
    ∀ s ∈ before, ∃ name, nameAt strings s.stName = some name ∧ name ≠ symbolBytes

def NoneNamed (strings : Option (List UInt8)) (symbolBytes : List UInt8)
    (symbols : List Symbol) : Prop :=
  ∀ s ∈ symbols, ∃ name, nameAt strings s.stName = some name ∧ name ≠ symbolBytes

/-- `sym` is the symbol a search for `symbolBytes` finds: the first so named in
`.symtab`, or, when none there is, the first so named in `.dynsym`. -/
def FirstMatch (parsedElf : ElfFile) (symbolBytes : List UInt8) (sym : Symbol) : Prop :=
  (∃ symtab, parsedElf.symbolTable = some symtab ∧
    FirstNamed (parsedElf.sectionBytes ".strtab") symbolBytes symtab sym) ∨
  ((∀ symtab, parsedElf.symbolTable = some symtab →
      NoneNamed (parsedElf.sectionBytes ".strtab") symbolBytes symtab) ∧
    ∃ dynsym, parsedElf.dynamicSymbolTable = some dynsym ∧
      FirstNamed (parsedElf.sectionBytes ".dynstr") symbolBytes dynsym sym)

variable {strings : Option (List UInt8)} {symbolBytes : List UInt8}
  {before symbols : List Symbol} {sym : Symbol}

theorem findSymbol_append (hbefore : ∀ s ∈ before, ∃ name, nameAt strings s.stName = some name ∧
      name ≠ symbolBytes) :
    findSymbol (symbolBytesIn strings) symbolBytes (before ++ symbols) =
      findSymbol (symbolBytesIn strings) symbolBytes symbols := by
  induction before with
  | nil => rfl
  | cons s before ih =>
    obtain ⟨⟨name, hname, hne⟩, hbefore⟩ := List.forall_mem_cons.mp hbefore
    rw [List.cons_append, findSymbol, symbolBytesIn_eq_nameAt, hname, Option.bind_eq_bind,
      Option.some_bind, if_neg (Ne.symm hne)]
    exact ih hbefore

theorem findSymbol_of_firstNamed (h : FirstNamed strings symbolBytes symbols sym) :
    findSymbol (symbolBytesIn strings) symbolBytes symbols = some (some sym) := by
  obtain ⟨before, after, rfl, hsym, hbefore⟩ := h
  rw [findSymbol_append hbefore, findSymbol, symbolBytesIn_eq_nameAt, hsym, Option.bind_eq_bind,
    Option.some_bind, if_pos rfl]
  rfl

theorem findSymbol_of_noneNamed (h : NoneNamed strings symbolBytes symbols) :
    findSymbol (symbolBytesIn strings) symbolBytes symbols = some none := by
  rw [← List.append_nil symbols, findSymbol_append h]
  rfl

/-- On a search that finds `sym`, `get_symbol_offset` is `st_value - Δ` on
`u64`. -/
theorem getSymbolOffset_of_firstMatch {elf : ELF64} (h : FirstMatch elf.parsedElf symbolBytes sym) :
    elf.getSymbolOffset symbolBytes = some <$> checkedSub sym.stValue (asU64 elf.addrOffsetDiff) := by
  rcases h with ⟨symtab, hsymtab, hfirst⟩ | ⟨hnone, dynsym, hdynsym, hfirst⟩
  · simp only [getSymbolOffset, getDebugSymbolBytes_eq, hsymtab, findSymbolIn,
      findSymbol_of_firstNamed hfirst, Option.bind_eq_bind, Option.some_bind]
    rfl
  · have hsymtab : findSymbolIn elf.getDebugSymbolBytes symbolBytes elf.parsedElf.symbolTable =
        some none := by
      cases hs : elf.parsedElf.symbolTable with
      | none => rfl
      | some symtab => exact findSymbol_of_noneNamed (hnone symtab hs)
    simp only [getSymbolOffset, hsymtab, Option.bind_eq_bind, Option.some_bind]
    simp only [findSymbolIn, getDynSymbolBytes_eq, hdynsym, findSymbol_of_firstNamed hfirst,
      Option.some_bind]

theorem new_of_executableSegment {parsedElf : ElfFile} {exec : ProgramHeader}
    (hexec : parsedElf.executableSegment = some exec) :
    new parsedElf =
      (checkedSubI64 (asI64 exec.pVaddr) (asI64 exec.pOffset)).map (ELF64.mk parsedElf) := by
  obtain ⟨segments, hsegments, hfind⟩ := Option.bind_eq_some.mp hexec
  simp only [new, hsegments, hfind, Option.bind_eq_bind, Option.some_bind]
  cases checkedSubI64 (asI64 exec.pVaddr) (asI64 exec.pOffset) <;> rfl

/-- `ELF64::new` returns when the executable segment lies below `2^63` with
`p_offset ≤ p_vaddr`, with Δ its displacement. -/
theorem new_of_displacement {parsedElf : ElfFile} {exec : ProgramHeader}
    (hexec : parsedElf.executableSegment = some exec) (hdisp : exec.pOffset ≤ exec.pVaddr)
    (hvaddr : exec.pVaddr < 2 ^ 63) :
    new parsedElf = some ⟨parsedElf, ((exec.pVaddr - exec.pOffset : Nat) : Int)⟩ := by
  have hdiff : asI64 exec.pVaddr - asI64 exec.pOffset =
      ((exec.pVaddr - exec.pOffset : Nat) : Int) := by
    rw [asI64_of_lt hvaddr, asI64_of_lt (by omega)]
    omega
  rw [new_of_executableSegment hexec, checkedSubI64_of_lt (by omega) (by omega), hdiff]
  rfl

section Displacement

variable {parsedElf : ElfFile} {displacement : Nat}

theorem getSymbolOffset_of_displacement (hfirst : FirstMatch parsedElf symbolBytes sym)
    (hvalue : displacement ≤ sym.stValue) (hsize : displacement < 2 ^ 64) :
    (⟨parsedElf, (displacement : Int)⟩ : ELF64).getSymbolOffset symbolBytes =
      some (some (sym.stValue - displacement)) := by
  rw [getSymbolOffset_of_firstMatch hfirst, asU64_of_lt hsize, checkedSub_of_le hvalue]
  rfl

theorem getSymbolAddr_of_displacement (hfirst : FirstMatch parsedElf symbolBytes sym)
    (hvalue : displacement ≤ sym.stValue) (hvalue' : sym.stValue < 2 ^ 63) :
    (⟨parsedElf, (displacement : Int)⟩ : ELF64).getSymbolAddr symbolBytes =
      some (some sym.stValue) := by
  simp only [getSymbolAddr, getSymbolOffset_of_displacement hfirst hvalue (by omega),
    Option.bind_eq_bind, Option.some_bind]
  rw [asI64_of_lt (by omega), checkedAddI64_of_lt (by omega) (by omega),
    show ((sym.stValue - displacement : Nat) : Int) + (displacement : Int) = (sym.stValue : Int)
      by omega]
  exact congrArg (fun addr => some (some addr)) (asU64_of_lt (by omega))

end Displacement

/-- On a file whose executable segment lies below `2^63` with
`p_offset ≤ p_vaddr`, `ELF64::new` returns; for a symbol the search finds whose
value is at least Δ and below `2^63`, `get_symbol_offset` returns
`st_value - Δ` and `get_symbol_addr` returns `st_value`, with no overflow.
The offset is `st_value - P.p_vaddr + P.p_offset` for a segment `P` that starts
at or below the symbol exactly when `P` has the displacement Δ. -/
theorem new_symbolOffset_symbolAddr {parsedElf : ElfFile} {exec : ProgramHeader}
    (hexec : parsedElf.executableSegment = some exec) (hdisp : exec.pOffset ≤ exec.pVaddr)
    (hvaddr : exec.pVaddr < 2 ^ 63) (hfirst : FirstMatch parsedElf symbolBytes sym)
    (hvalue : exec.pVaddr - exec.pOffset ≤ sym.stValue) (hvalue' : sym.stValue < 2 ^ 63) :
    ∃ elf, new parsedElf = some elf ∧
      elf.getSymbolOffset symbolBytes =
        some (some (sym.stValue - (exec.pVaddr - exec.pOffset))) ∧
      elf.getSymbolAddr symbolBytes = some (some sym.stValue) ∧
      ∀ segments, parsedElf.segments = some segments → ∀ P ∈ segments,
        P.pOffset ≤ P.pVaddr → P.pVaddr ≤ sym.stValue →
          (sym.stValue - (exec.pVaddr - exec.pOffset) = sym.stValue - P.pVaddr + P.pOffset ↔
            P.pVaddr - P.pOffset = exec.pVaddr - exec.pOffset) :=
  ⟨_, new_of_displacement hexec hdisp hvaddr,
    getSymbolOffset_of_displacement hfirst hvalue (by omega),
    getSymbolAddr_of_displacement hfirst hvalue hvalue', fun _ _ _ _ _ _ => by omega⟩

/-! ## The loader's `_dl_debug_state` and `_r_debug` -/

def dlDebugStateName : List UInt8 := "_dl_debug_state".toUTF8.data.toList

def rDebugName : List UInt8 := "_r_debug".toUTF8.data.toList

def loaderDataSegment : ProgramHeader := ⟨ptLoad, 6, 0x2df0, 0x3df0, 0x230⟩

def loaderStrtab : List UInt8 := 0 :: dlDebugStateName ++ 0 :: rDebugName ++ [0]

/-- A loader with a read-only segment, a code segment loaded at its own file
offset, and the data segment; `.symtab` holds the null symbol,
`_dl_debug_state` in the code and `_r_debug` in the data. -/
def loaderElf : ElfFile where
  segments := some [⟨ptLoad, pfR, 0, 0, 0x1000⟩, ⟨ptLoad, pfR ||| pfX, 0x1000, 0x1000, 0x1000⟩,
    loaderDataSegment]
  sectionHeaderByName name := some (if name = ".strtab" then some ⟨0x3000, 26⟩ else none)
  sectionData header := if header = ⟨0x3000, 26⟩ then some loaderStrtab else none
  symbolTable := some [⟨0, 0⟩, ⟨1, 0x1a20⟩, ⟨17, 0x3e00⟩]
  dynamicSymbolTable := none

/-- The tracer's breakpoint lookup: `_dl_debug_state` lies in the code segment,
so the offset `get_symbol_offset` returns is where it is stored. -/
theorem dlDebugState_offset_and_addr :
    ∃ elf, new loaderElf = some elf ∧
      elf.getSymbolOffset dlDebugStateName = some (some (0x1a20 - (0x1000 - 0x1000))) ∧
      elf.getSymbolAddr dlDebugStateName = some (some 0x1a20) ∧
      ∀ segments, loaderElf.segments = some segments → ∀ P ∈ segments,
        P.pOffset ≤ P.pVaddr → P.pVaddr ≤ 0x1a20 →
          (0x1a20 - (0x1000 - 0x1000) = 0x1a20 - P.pVaddr + P.pOffset ↔
            P.pVaddr - P.pOffset = 0x1000 - 0x1000) :=
  @new_symbolOffset_symbolAddr dlDebugStateName ⟨1, 0x1a20⟩ loaderElf
    ⟨ptLoad, pfR ||| pfX, 0x1000, 0x1000, 0x1000⟩ rfl (by decide) (by decide)
    (.inl ⟨_, rfl, [⟨0, 0⟩], [⟨17, 0x3e00⟩], rfl, rfl,
      List.forall_mem_singleton.mpr ⟨[], rfl, by decide⟩⟩)
    (by decide) (by decide)

/-- `_r_debug` is the symbol the search for its name finds, and its value
0x3e00 lies in the data segment, whose bytes put it at file offset 0x2e00; yet
`get_symbol_offset` returns 0x3e00, the value less the code segment's
displacement 0.  `get_symbol_addr` returns the value. -/
theorem rDebug_offset_misses_data_segment :
    ∃ elf, new loaderElf = some elf ∧ FirstMatch loaderElf rDebugName ⟨17, 0x3e00⟩ ∧
      loaderElf.segments = some [⟨ptLoad, pfR, 0, 0, 0x1000⟩,
        ⟨ptLoad, pfR ||| pfX, 0x1000, 0x1000, 0x1000⟩, loaderDataSegment] ∧
      loaderDataSegment.pType = ptLoad ∧ loaderDataSegment.pVaddr ≤ 0x3e00 ∧
      0x3e00 < loaderDataSegment.pVaddr + loaderDataSegment.pFilesz ∧
      0x3e00 - loaderDataSegment.pVaddr + loaderDataSegment.pOffset = 0x2e00 ∧
      elf.getSymbolOffset rDebugName = some (some 0x3e00) ∧
      elf.getSymbolAddr rDebugName = some (some 0x3e00) :=
  ⟨_, rfl, .inl ⟨_, rfl, [⟨0, 0⟩, ⟨1, 0x1a20⟩], [], rfl, rfl,
      List.forall_mem_cons.mpr ⟨⟨[], rfl, by decide⟩,
        List.forall_mem_singleton.mpr ⟨dlDebugStateName, rfl, by decide⟩⟩⟩,
    rfl, rfl, by decide, by decide, rfl, rfl, rfl⟩

end ELF64

end NegativaMl
