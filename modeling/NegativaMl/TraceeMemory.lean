import NegativaMl.RustRuntime
import Mathlib.Data.Nat.Find

/-!
# The tracee's memory through `ptrace`

The tracer reads and writes the traced process only through `ptrace::read`
and `ptrace::write` (`PTRACE_PEEKDATA`, `PTRACE_POKEDATA`).  Each moves one
8-byte word, little-endian on the x86-64 hosts the tool targets, and fails
when one of its eight bytes is not mapped.  A word is kept as the `Nat` of its
bytes: `word == 0` and `word as u8` mean the same on it as on the `i64` the
call returns.

`Tracer::read_string` reads the word at `address + i` for `i = 0, 1, …`,
keeps its low byte, and stops after the first word that is zero.  When it
returns, its string is the bytes before the first NUL.  But it stops at the
first *word* that is zero, not at the first zero byte: after a terminator
that a nonzero byte follows within seven bytes it reads on, and it can reach,
and panic on, memory past the eight bytes from the terminator.
-/

namespace NegativaMl

def wordSize : Nat := 8

def wordBytes (word : Nat) : List UInt8 :=
  (List.range wordSize).map fun k => UInt8.ofNat (word / 256 ^ k)

theorem range_map_fromNeBytes (bytes : List UInt8) :
    (List.range bytes.length).map (fun k => UInt8.ofNat (fromNeBytes bytes / 256 ^ k)) = bytes := by
  induction bytes with
  | nil => rfl
  | cons byte bytes ih =>
    rw [List.length_cons, List.range_succ_eq_map, List.map_cons, List.map_map, Nat.pow_zero,
      Nat.div_one, ofNat_fromNeBytes_cons]
    conv_rhs => rw [← ih]
    congr 1
    refine List.map_congr_left fun k _ => ?_
    rw [Function.comp_apply, Nat.pow_succ', ← Nat.div_div_eq_div_mul, fromNeBytes_cons_div]

theorem wordBytes_fromNeBytes {bytes : List UInt8} (h : bytes.length = wordSize) :
    wordBytes (fromNeBytes bytes) = bytes := by
  rw [wordBytes, ← h, range_map_fromNeBytes]

/-- The traced process's address space: the byte at each mapped address. -/
structure TraceeMemory where
  byte : Nat → Option UInt8

def TraceeMemory.ofSegments (segments : List (Nat × List UInt8)) : TraceeMemory :=
  ⟨fun address => segments.findSome? fun (start, bytes) =>
    if start ≤ address then bytes[address - start]? else none⟩

namespace TraceeMemory

variable (memory : TraceeMemory)

def readBytes (address : Nat) : Nat → Option (List UInt8)
  | 0 => some []
  | count + 1 => do
    let byte ← memory.byte address
    let bytes ← readBytes (address + 1) count
    pure (byte :: bytes)

/-- `ptrace::read(pid, address)`: the word of the eight bytes from `address`,
or an error when one of them is unmapped. -/
def ptraceRead (address : Nat) : Option Nat :=
  fromNeBytes <$> memory.readBytes address wordSize

/-- `ptrace::write(pid, address, word)`: the eight bytes of `word` stored from
`address`, or an error when one of them is unmapped.  The kernel writes with
`FOLL_FORCE`, so a mapped page takes the write even where the tracee itself
may not write, as the breakpoint on the loader's code needs. -/
def ptraceWrite (address word : Nat) : Option TraceeMemory :=
  if (memory.readBytes address wordSize).isSome then
    some ⟨fun a => if address ≤ a ∧ a < address + wordSize then (wordBytes word)[a - address]?
      else memory.byte a⟩
  else none

variable {memory}

theorem readBytes_succ_eq_some {address count : Nat} {bytes : List UInt8} :
    memory.readBytes address (count + 1) = some bytes ↔
      ∃ byte rest, memory.byte address = some byte ∧
        memory.readBytes (address + 1) count = some rest ∧ bytes = byte :: rest := by
  simp only [readBytes, Option.bind_eq_bind, Option.bind_eq_some, Option.pure_def,
    Option.some.injEq]
  exact ⟨fun ⟨byte, hbyte, rest, hrest, h⟩ => ⟨byte, rest, hbyte, hrest, h.symm⟩,
    fun ⟨byte, rest, hbyte, hrest, h⟩ => ⟨byte, hbyte, rest, hrest, h.symm⟩⟩

theorem byte_of_ptraceRead {address word : Nat} (h : memory.ptraceRead address = some word) :
    memory.byte address = some (UInt8.ofNat word) := by
  simp only [ptraceRead, wordSize, Option.map_eq_map, Option.map_eq_some'] at h
  obtain ⟨bytes, hbytes, rfl⟩ := h
  obtain ⟨byte, rest, hbyte, -, rfl⟩ := readBytes_succ_eq_some.mp hbytes
  rw [hbyte, ofNat_fromNeBytes_cons]

theorem readBytes_eq_some_iff {address count : Nat} {bytes : List UInt8} :
    memory.readBytes address count = some bytes ↔
      bytes.length = count ∧ ∀ k < count, memory.byte (address + k) = bytes[k]? := by
  induction count generalizing address bytes with
  | zero => simp [readBytes, List.length_eq_zero, eq_comm]
  | succ count ih =>
    rw [readBytes_succ_eq_some]
    constructor
    · rintro ⟨byte, rest, hbyte, hrest, rfl⟩
      obtain ⟨hlen, hrest⟩ := ih.mp hrest
      refine ⟨by rw [List.length_cons, hlen], fun k hk => ?_⟩
      cases k with
      | zero => simpa using hbyte
      | succ k => rw [List.getElem?_cons_succ, ← hrest k (by omega), Nat.add_right_comm, Nat.add_assoc]
    · rintro ⟨hlen, hbytes⟩
      obtain ⟨byte, rest, rfl⟩ := List.exists_cons_of_length_eq_add_one hlen
      refine ⟨byte, rest, by simpa using hbytes 0 (by omega), ih.mpr ⟨by simpa using hlen,
        fun k hk => ?_⟩, rfl⟩
      rw [Nat.add_assoc, Nat.add_comm 1, hbytes (k + 1) (by omega), List.getElem?_cons_succ]

theorem byte_of_readBytes {address count : Nat} {bytes : List UInt8}
    (h : memory.readBytes address count = some bytes) :
    bytes.length = count ∧ ∀ k < count, memory.byte (address + k) = bytes[k]? :=
  readBytes_eq_some_iff.mp h

theorem readBytes_drop_take {address count k n : Nat} {bytes : List UInt8}
    (h : memory.readBytes address count = some bytes) (hk : k + n ≤ count) :
    memory.readBytes (address + k) n = some ((bytes.drop k).take n) := by
  obtain ⟨hlen, hbytes⟩ := readBytes_eq_some_iff.mp h
  refine readBytes_eq_some_iff.mpr ⟨by simp [hlen]; omega, fun i hi => ?_⟩
  rw [List.getElem?_take_of_lt hi, List.getElem?_drop, Nat.add_assoc, hbytes _ (by omega)]

theorem ptraceRead_of_readBytes {address count k : Nat} {bytes : List UInt8}
    (h : memory.readBytes address count = some bytes) (hk : k + wordSize ≤ count) :
    memory.ptraceRead (address + k) = some (fromNeBytes ((bytes.drop k).take wordSize)) := by
  simp [ptraceRead, readBytes_drop_take h hk]

/-- What `ptrace::write` leaves at each address: the word's bytes on its eight
addresses, the old bytes elsewhere. -/
theorem byte_of_ptraceWrite {address word : Nat} {memory' : TraceeMemory}
    (h : memory.ptraceWrite address word = some memory') (a : Nat) :
    memory'.byte a = if address ≤ a ∧ a < address + wordSize then (wordBytes word)[a - address]?
      else memory.byte a := by
  unfold ptraceWrite at h
  split at h
  · cases h
    rfl
  · cases h

end TraceeMemory

/-- `Tracer::set_first_byte_at_addr`: read the word at `abs_addr`, put
`first_byte` in its low byte, `(orig_word & !0xff) | first_byte`, and write it
back. -/
def setFirstByteAtAddr (memory : TraceeMemory) (absAddr : Nat) (firstByte : UInt8) :
    Option TraceeMemory := do
  let origWord ← memory.ptraceRead absAddr
  memory.ptraceWrite absAddr (origWord / 256 * 256 + firstByte.toNat)

/-- On a readable word, `set_first_byte_at_addr` stores `first_byte` at
`abs_addr` and leaves every other address as it was: the mask keeps the other
seven bytes of the word it writes back.  A word that `ptrace::read` can read,
`ptrace::write` can write. -/
theorem setFirstByteAtAddr_frame {memory : TraceeMemory} {absAddr : Nat}
    (hread : (memory.ptraceRead absAddr).isSome) (firstByte : UInt8) :
    ∃ memory', setFirstByteAtAddr memory absAddr firstByte = some memory' ∧
      memory'.byte absAddr = some firstByte ∧
      ∀ address ≠ absAddr, memory'.byte address = memory.byte address := by
  obtain ⟨bytes, hbytes⟩ : ∃ bytes, memory.readBytes absAddr wordSize = some bytes :=
    Option.isSome_iff_exists.mp (by simpa [TraceeMemory.ptraceRead] using hread)
  obtain ⟨hlen, hbyte⟩ := TraceeMemory.byte_of_readBytes hbytes
  obtain ⟨orig, rest, rfl⟩ : ∃ orig rest, bytes = orig :: rest :=
    List.exists_cons_of_ne_nil (by rintro rfl; cases hlen)
  have hword : fromNeBytes (orig :: rest) / 256 * 256 + firstByte.toNat =
      fromNeBytes (firstByte :: rest) := by
    rw [fromNeBytes_cons_div, fromNeBytes_cons]
    omega
  have hstored : wordBytes (fromNeBytes (firstByte :: rest)) = firstByte :: rest :=
    wordBytes_fromNeBytes hlen
  obtain ⟨memory', hwrite⟩ : ∃ memory',
      memory.ptraceWrite absAddr (fromNeBytes (firstByte :: rest)) = some memory' :=
    ⟨_, if_pos (by rw [hbytes]; rfl)⟩
  refine ⟨memory', ?_, ?_, fun address hne => ?_⟩
  · simp only [setFirstByteAtAddr, TraceeMemory.ptraceRead, hbytes, Option.map_eq_map,
      Option.map_some', Option.bind_eq_bind, Option.some_bind, hword, hwrite]
  · rw [TraceeMemory.byte_of_ptraceWrite hwrite, if_pos ⟨le_rfl, by simp [wordSize]⟩,
      Nat.sub_self, hstored, List.getElem?_cons_zero]
  · rw [TraceeMemory.byte_of_ptraceWrite hwrite, hstored]
    split_ifs with hin
    · obtain ⟨k, rfl⟩ : ∃ k, address = absAddr + (k + 1) := ⟨address - absAddr - 1, by omega⟩
      rw [Nat.add_sub_cancel_left, List.getElem?_cons_succ, hbyte (k + 1) (by omega),
        List.getElem?_cons_succ]
    · rfl

/-- A word of the loader's code, `endbr64; push %rbp; mov %rsp,%rbp`, mapped
from 4096. -/
def hookMemory : TraceeMemory :=
  .ofSegments [(4096, [0xf3, 0x0f, 0x1e, 0xfa, 0x55, 0x48, 0x89, 0xe5])]

theorem setFirstByteAtAddr_hookMemory :
    (hookMemory.ptraceRead 4096).isSome ∧ ∃ memory',
      setFirstByteAtAddr hookMemory 4096 0xcc = some memory' ∧ memory'.byte 4096 = some 0xcc ∧
        ∀ address ≠ 4096, memory'.byte address = hookMemory.byte address :=
  ⟨rfl, @setFirstByteAtAddr_frame hookMemory 4096 rfl 0xcc⟩

/-- `Tracer::read_as::<T>`: the `size_of::<T>() / WORD_SIZE` words from
`abs_addr`, the `i`-th read with `ptrace::read` at `abs_addr + i * WORD_SIZE`. -/
def readAs (memory : TraceeMemory) (absAddr numOfWords : Nat) : Option (List Nat) :=
  (List.range numOfWords).mapM fun i => do
    let addr ← checkedAdd absAddr (i * wordSize)
    memory.ptraceRead addr

/-! ## `read_string` -/

/-- The loop of `Tracer::read_string`: read the word at `address + i`, push
its low byte (`word as u8`), step `i` by one, and stop after a word that is
zero. -/
def readStringLoop (memory : TraceeMemory) (address : Nat) :
    Nat → Nat → List UInt8 → Exec (List UInt8)
  | 0, _, _ => .fuelOut
  | fuel + 1, i, strBytes => do
    let addr ← Exec.ofOption (checkedAdd address i)
    let word ← Exec.ofOption (memory.ptraceRead addr)
    let strBytes := strBytes ++ [UInt8.ofNat word]
    let i ← Exec.ofOption (checkedAdd i 1)
    if word = 0 then pure strBytes else readStringLoop memory address fuel i strBytes

/-- `Tracer::read_string`: the loop, then
`CStr::from_bytes_until_nul(..).unwrap().to_str().unwrap()`. -/
def readString (memory : TraceeMemory) (address fuel : Nat) : Exec String := do
  let strBytes ← readStringLoop memory address fuel 0 []
  let cstr ← Exec.ofOption (fromBytesUntilNul strBytes)
  Exec.ofOption (String.fromUTF8? ⟨cstr.toArray⟩)

section ReadString

variable {memory : TraceeMemory} {address m : Nat}

theorem readStringLoop_nonzero {fuel i word : Nat} {strBytes : List UInt8}
    (hfit : address + i + 1 < 2 ^ 64) (hword : memory.ptraceRead (address + i) = some word)
    (hne : word ≠ 0) :
    readStringLoop memory address (fuel + 1) i strBytes =
      readStringLoop memory address fuel (i + 1) (strBytes ++ [UInt8.ofNat word]) := by
  simp [readStringLoop, checkedAdd_of_lt (show address + i < 2 ^ 64 by omega),
    checkedAdd_of_lt (show i + 1 < 2 ^ 64 by omega), hword, hne]

/-- Over the nonzero words below `address + m` the loop pushes the bytes
mapped there. -/
theorem readStringLoop_skip (hfit : address + m < 2 ^ 64)
    (hwords : ∀ j < m, ∃ word, memory.ptraceRead (address + j) = some word ∧ word ≠ 0) :
    ∀ (n i fuel : Nat) (strBytes : List UInt8), i + n = m →
      ∃ bytes, memory.readBytes (address + i) n = some bytes ∧
        readStringLoop memory address (fuel + n) i strBytes =
          readStringLoop memory address fuel m (strBytes ++ bytes)
  | 0, i, fuel, strBytes, hi => ⟨[], rfl, by rw [← hi, Nat.add_zero, Nat.add_zero, List.append_nil]⟩
  | n + 1, i, fuel, strBytes, hi => by
    obtain ⟨word, hword, hne⟩ := hwords i (by omega)
    obtain ⟨bytes, hbytes, hloop⟩ :=
      readStringLoop_skip hfit hwords n (i + 1) fuel (strBytes ++ [UInt8.ofNat word]) (by omega)
    refine ⟨UInt8.ofNat word :: bytes, TraceeMemory.readBytes_succ_eq_some.mpr
      ⟨_, _, TraceeMemory.byte_of_ptraceRead hword, by rwa [Nat.add_assoc], rfl⟩, ?_⟩
    rw [← Nat.add_assoc, readStringLoop_nonzero (by omega) hword hne, hloop, List.append_assoc,
      List.singleton_append]

/-- At the first zero word, `read_string` decodes what it pushed: the low
bytes of the nonzero words before it, then the zero word's `0`. -/
theorem readString_of_zeroWord {strBytes : List UInt8} {fuel : Nat}
    (hfit : address + m + 1 < 2 ^ 64)
    (hwords : ∀ j < m, ∃ word, memory.ptraceRead (address + j) = some word ∧ word ≠ 0)
    (hbytes : memory.readBytes address m = some strBytes)
    (hzero : memory.ptraceRead (address + m) = some 0) (hfuel : m < fuel) :
    readString memory address fuel =
      Exec.ofOption ((fromBytesUntilNul (strBytes ++ [0])).bind
        fun cstr => String.fromUTF8? ⟨cstr.toArray⟩) := by
  obtain ⟨fuel, rfl⟩ : ∃ rest, fuel = rest + 1 + m := ⟨fuel - m - 1, by omega⟩
  obtain ⟨bytes, hbytes', hloop⟩ :=
    readStringLoop_skip (by omega) hwords m 0 (fuel + 1) [] (Nat.zero_add m)
  rw [Nat.add_zero, hbytes, Option.some.injEq] at hbytes'
  rw [← hbytes'] at hloop
  have hlast : readStringLoop memory address (fuel + 1) m strBytes = .done (strBytes ++ [0]) := by
    simp [readStringLoop, checkedAdd_of_lt (show address + m < 2 ^ 64 by omega),
      checkedAdd_of_lt (show m + 1 < 2 ^ 64 by omega), hzero]
  simp only [readString, hloop, List.nil_append, hlast, Exec.done_bind]
  cases fromBytesUntilNul (strBytes ++ [0]) <;> rfl

theorem readString_of_unmappedWord {fuel : Nat} (hfit : address + m < 2 ^ 64)
    (hwords : ∀ j < m, ∃ word, memory.ptraceRead (address + j) = some word ∧ word ≠ 0)
    (hunmapped : memory.ptraceRead (address + m) = none) (hfuel : m < fuel) :
    readString memory address fuel = .panic := by
  obtain ⟨fuel, rfl⟩ : ∃ rest, fuel = rest + 1 + m := ⟨fuel - m - 1, by omega⟩
  obtain ⟨bytes, -, hloop⟩ := readStringLoop_skip hfit hwords m 0 (fuel + 1) [] (Nat.zero_add m)
  simp [readString, hloop, readStringLoop, checkedAdd_of_lt hfit, hunmapped]

/-- `read_string` reads the words at `address`, `address + 1`, … up to the
first one that is zero or unmapped.  At a zero word it returns the UTF-8 text
before the first NUL of the low bytes it read; at an unmapped word it panics.
So it needs every word up to the first zero word mapped, which reaches seven
bytes past that word's address, not past the NUL's. -/
theorem readString_eq (hfit : address + m + 1 < 2 ^ 64)
    (hwords : ∀ j < m, ∃ word, memory.ptraceRead (address + j) = some word ∧ word ≠ 0)
    {fuel : Nat} (hfuel : m < fuel) :
    ∃ strBytes, memory.readBytes address m = some strBytes ∧
      (memory.ptraceRead (address + m) = some 0 →
        readString memory address fuel =
          Exec.ofOption ((fromBytesUntilNul (strBytes ++ [0])).bind
            fun cstr => String.fromUTF8? ⟨cstr.toArray⟩)) ∧
      (memory.ptraceRead (address + m) = none → readString memory address fuel = .panic) := by
  obtain ⟨strBytes, hbytes, -⟩ := readStringLoop_skip (by omega) hwords m 0 0 [] (Nat.zero_add m)
  rw [Nat.add_zero] at hbytes
  exact ⟨strBytes, hbytes, fun hzero => readString_of_zeroWord hfit hwords hbytes hzero hfuel,
    fun hunmapped => readString_of_unmappedWord (by omega) hwords hunmapped hfuel⟩

end ReadString

def ldNameMemory : TraceeMemory :=
  .ofSegments [(4096, [0x6c, 0x64] ++ List.replicate 8 0)]

/-- An empty `l_name`, the name the loader gives the main program, stored
right before the string "ld" at the end of a mapping: a NUL at 4096, then
"ld" and five NULs, and nothing mapped from 4104 on. -/
def emptyNameMemory : TraceeMemory :=
  .ofSegments [(4096, [0, 0x6c, 0x64, 0, 0, 0, 0, 0])]

theorem readString_ldName_emptyName :
    ldNameMemory.ptraceRead (4096 + 2) = some 0 ∧
      (∃ strBytes, ldNameMemory.readBytes 4096 2 = some strBytes ∧
        (ldNameMemory.ptraceRead (4096 + 2) = some 0 →
          readString ldNameMemory 4096 3 = Exec.ofOption ((fromBytesUntilNul (strBytes ++ [0])).bind
            fun cstr => String.fromUTF8? ⟨cstr.toArray⟩)) ∧
        (ldNameMemory.ptraceRead (4096 + 2) = none → readString ldNameMemory 4096 3 = .panic)) ∧
      emptyNameMemory.ptraceRead (4096 + 1) = none ∧
      ∃ strBytes, emptyNameMemory.readBytes 4096 1 = some strBytes ∧
        (emptyNameMemory.ptraceRead (4096 + 1) = some 0 →
          readString emptyNameMemory 4096 2 = Exec.ofOption ((fromBytesUntilNul
            (strBytes ++ [0])).bind fun cstr => String.fromUTF8? ⟨cstr.toArray⟩)) ∧
        (emptyNameMemory.ptraceRead (4096 + 1) = none →
          readString emptyNameMemory 4096 2 = .panic) :=
  ⟨rfl, @readString_eq ldNameMemory 4096 2 (by decide)
    (fun j hj => match j, hj with
      | 0, _ => ⟨_, rfl, by decide⟩
      | 1, _ => ⟨_, rfl, by decide⟩
      | _ + 2, h => absurd h (by omega))
    3 (by decide), rfl, @readString_eq emptyNameMemory 4096 1 (by decide)
    (fun j hj => match j, hj with
      | 0, _ => ⟨_, rfl, by decide⟩
      | _ + 1, h => absurd h (by omega))
    2 (by decide)⟩

/-- The first NUL from 4096 is at 4096 itself, and the eight bytes from there
are mapped; yet `read_string` panics: the word at 4096 is not zero, so it goes
on to read the word at 4097, whose last byte is unmapped. -/
theorem readString_emptyNameMemory_panics :
    emptyNameMemory.byte 4096 = some 0 ∧
      (∀ k < wordSize, (emptyNameMemory.byte (4096 + k)).isSome) ∧
      ∀ fuel, readString emptyNameMemory 4096 (fuel + 2) = .panic :=
  ⟨rfl, by decide, fun _ => rfl⟩

/-! ## Names stored in the tracee -/

/-- A name as `read_string` can return it: bytes without a NUL that are valid
UTF-8, and their text. -/
structure CName where
  bytes : List UInt8
  text : String
  nul_free : 0 ∉ bytes
  utf8 : String.fromUTF8? ⟨bytes.toArray⟩ = some text

/-- `name` is stored at `ptr`: its bytes and a NUL, then any bytes up to a run
of eight zero bytes from `ptr + zeroRun`, all of them mapped and below
`2^64`. -/
def CName.StoredAt (name : CName) (memory : TraceeMemory) (ptr : Nat) : Prop :=
  ∃ zeroRun bytes, ptr + zeroRun + wordSize ≤ 2 ^ 64 ∧
    memory.readBytes ptr (zeroRun + wordSize) = some bytes ∧ name.bytes ++ [0] <+: bytes ∧
    (bytes.drop zeroRun).take wordSize = List.replicate wordSize 0

theorem CName.take_append_zero {name : CName} {bytes : List UInt8} {m : Nat}
    (hleading : name.bytes ++ [0] <+: bytes) (hm : name.bytes.length ≤ m) :
    ∃ rest, bytes.take m ++ [0] = name.bytes ++ 0 :: rest := by
  obtain ⟨tail, rfl⟩ := hleading
  rw [List.append_assoc, List.take_append_eq_append_take, List.take_of_length_le hm,
    List.append_assoc]
  cases m - name.bytes.length with
  | zero => exact ⟨[], rfl⟩
  | succ k => exact ⟨tail.take k ++ [0], by simp⟩

/-- `read_string` at a stored name returns its text, given the loop budget to
reach the first zero word. -/
theorem CName.readString_of_storedAt {name : CName} {memory : TraceeMemory} {ptr : Nat}
    (h : name.StoredAt memory ptr) :
    ∃ minFuel, ∀ fuel, minFuel ≤ fuel → readString memory ptr fuel = .done name.text := by
  obtain ⟨zeroRun, bytes, hfit, hbytes, hleading, hzeroRun⟩ := h
  have hlen := (TraceeMemory.byte_of_readBytes hbytes).1
  -- the words from `ptr` on, as far as the run of zeros
  have hword : ∀ j ≤ zeroRun, memory.ptraceRead (ptr + j) =
      some (fromNeBytes ((bytes.drop j).take wordSize)) := fun j hj =>
    TraceeMemory.ptraceRead_of_readBytes hbytes (by omega)
  have hzero_iff : ∀ j ≤ zeroRun, fromNeBytes ((bytes.drop j).take wordSize) = 0 ↔
      (bytes.drop j).take wordSize = List.replicate wordSize 0 := fun j hj => by
    rw [fromNeBytes_eq_zero_iff, List.eq_replicate_iff]
    exact ⟨fun hall => ⟨by simp only [List.length_take, List.length_drop, hlen]; omega, hall⟩,
      And.right⟩
  -- the first zero word
  classical
  have hex : ∃ j, (bytes.drop j).take wordSize = List.replicate wordSize 0 := ⟨zeroRun, hzeroRun⟩
  obtain ⟨m, hm, hmin, hmz⟩ : ∃ m, (bytes.drop m).take wordSize = List.replicate wordSize 0 ∧
      (∀ j < m, (bytes.drop j).take wordSize ≠ List.replicate wordSize 0) ∧ m ≤ zeroRun :=
    ⟨Nat.find hex, Nat.find_spec hex, fun _ => Nat.find_min hex, Nat.find_min' hex hzeroRun⟩
  have hwords : ∀ j < m, ∃ word, memory.ptraceRead (ptr + j) = some word ∧ word ≠ 0 :=
    fun j hj => ⟨_, hword j (by omega), fun h0 => hmin j hj ((hzero_iff j (by omega)).mp h0)⟩
  -- it lies at or past the terminator, whose byte is the only one of the name that is zero
  have hname : name.bytes.length ≤ m := by
    by_contra hlt
    have hbyte : bytes[m]? = name.bytes[m]? := by
      obtain ⟨tail, rfl⟩ := hleading
      rw [List.append_assoc, List.getElem?_append_left (by omega)]
    have hzero : bytes[m]? = some 0 := by
      have := congrArg (·[0]?) hm
      dsimp only at this
      rwa [List.getElem?_take_of_lt (by decide), List.getElem?_drop, Nat.add_zero] at this
    rw [hzero] at hbyte
    exact name.nul_free (List.getElem?_mem hbyte.symm)
  obtain ⟨rest, hrest⟩ := CName.take_append_zero hleading hname
  refine ⟨zeroRun + 1, fun fuel hfuel => ?_⟩
  rw [readString_of_zeroWord (by rw [show wordSize = 8 from rfl] at hfit; omega) hwords
    (by simpa using TraceeMemory.readBytes_drop_take hbytes (show 0 + m ≤ zeroRun + wordSize by
      simp only [wordSize]; omega))
    ((hword m hmz).trans (by rw [(hzero_iff m hmz).mpr hm])) (by omega), hrest,
    fromBytesUntilNul_append name.nul_free, Option.some_bind, name.utf8]
  rfl

end NegativaMl
