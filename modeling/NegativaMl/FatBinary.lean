import NegativaMl.RustRuntime
import Mathlib.Algebra.BigOperators.Group.List
import Mathlib.Algebra.Order.Ring.Nat

/-!
# The fat-binary parser

`GPUCode::new` cuts the `.nv_fatbin` section into regions and `Region::new`
cuts a region into elements, reading each header in place.  Neither loop
checks what it reads: `header_size` is never compared with 16, an element may
run past its region and a region past the section.  The element cursor is
relative to the start of the region (it begins at `RegionHeader::size() = 16`)
but is compared with `fat_size`, the size of the payload alone.

Each loop is paired with an inductive description of what it reads, and the
fuelled loop returns exactly what the description allows
(`Region.elementLoop_sound`, `Region.elementLoop_complete`).  Later modules
work with the descriptions and never unfold a loop.
-/

namespace NegativaMl

/-- `RegionHeader`: the `u16` at bytes `6..8` and the `u64` at bytes `8..16`
of a region. -/
structure RegionHeader where
  headerSize : Nat
  fatSize : Nat
  deriving Repr, DecidableEq

def RegionHeader.size : Nat := 16

/-- `ElementHeader`: the `u16` at bytes `0..2`, the `u32` at `4..8`, the `u64`
at `8..16` and the `u32` at `28..32` of a 32-byte element header. -/
structure ElementHeader where
  fileType : Nat
  offset : Nat
  size : Nat
  capability : Nat
  deriving Repr, DecidableEq

structure Element where
  header : ElementHeader
  deriving Repr, DecidableEq

structure Region where
  header : RegionHeader
  elements : List Element
  deriving Repr, DecidableEq

structure GPUCode where
  regions : List Region
  deriving Repr, DecidableEq

/-! ## Header reads -/

/-- The two field reads at the top of `Region::new`. -/
def RegionHeader.read (regionData : List UInt8) : Option RegionHeader := do
  let headerSize ← slice regionData 6 8
  let fatSize ← slice regionData 8 16
  pure ⟨fromNeBytes headerSize, fromNeBytes fatSize⟩

/-- `uN::from_ne_bytes(region_data[element_offset + lo..element_offset + hi]
.try_into().unwrap())`, one field read of the element loop. -/
def readField (regionData : List UInt8) (elementOffset lo hi : Nat) : Option Nat := do
  let bytes ← slice regionData (← checkedAdd elementOffset lo) (← checkedAdd elementOffset hi)
  pure (fromNeBytes bytes)

/-- The four field reads in the body of the element loop of `Region::new`. -/
def ElementHeader.read (regionData : List UInt8) (elementOffset : Nat) :
    Option ElementHeader := do
  pure ⟨← readField regionData elementOffset 0 2, ← readField regionData elementOffset 4 8,
    ← readField regionData elementOffset 8 16, ← readField regionData elementOffset 28 32⟩

def RegionHeader.decode (bytes : List UInt8) : RegionHeader :=
  ⟨fromNeBytes ((bytes.drop 6).take 2), fromNeBytes ((bytes.drop 8).take 8)⟩

def ElementHeader.decode (bytes : List UInt8) : ElementHeader :=
  ⟨fromNeBytes (bytes.take 2), fromNeBytes ((bytes.drop 4).take 4),
    fromNeBytes ((bytes.drop 8).take 8), fromNeBytes ((bytes.drop 28).take 4)⟩

theorem RegionHeader.read_eq_some {regionData : List UInt8} {header : RegionHeader} :
    RegionHeader.read regionData = some header ↔
      16 ≤ regionData.length ∧ header = RegionHeader.decode regionData := by
  by_cases hlen : 16 ≤ regionData.length
  · simp [RegionHeader.read, RegionHeader.decode, slice_of_le, hlen, eq_comm,
      show 8 ≤ regionData.length by omega]
  · simp [RegionHeader.read, slice_of_length_lt (Nat.lt_of_not_le hlen), hlen]

theorem readField_of_le {regionData : List UInt8} {elementOffset lo hi : Nat}
    (hlo : lo ≤ hi) (hlen : elementOffset + hi ≤ regionData.length)
    (hlt : elementOffset + hi < 2 ^ 64) :
    readField regionData elementOffset lo hi =
      some (fromNeBytes ((regionData.drop (elementOffset + lo)).take (hi - lo))) := by
  simp [readField, checkedAdd_of_lt hlt, checkedAdd_of_lt (show elementOffset + lo < 2 ^ 64 by omega),
    slice_of_le (show elementOffset + lo ≤ elementOffset + hi by omega) hlen,
    Nat.add_sub_add_left]

theorem readField_eq_none {regionData : List UInt8} {elementOffset lo hi : Nat}
    (h : ¬ (elementOffset + hi ≤ regionData.length ∧ elementOffset + hi < 2 ^ 64)) :
    readField regionData elementOffset lo hi = none := by
  unfold readField
  by_cases hlt : elementOffset + hi < 2 ^ 64
  · simp [checkedAdd_of_lt hlt,
      slice_of_length_lt (show regionData.length < elementOffset + hi by omega)]
  · simp only [checkedAdd, if_neg hlt]
    simp

theorem ElementHeader.read_eq_some {regionData : List UInt8} {elementOffset : Nat}
    {header : ElementHeader} :
    ElementHeader.read regionData elementOffset = some header ↔
      elementOffset + 32 ≤ regionData.length ∧ elementOffset + 32 < 2 ^ 64 ∧
        header = ElementHeader.decode (regionData.drop elementOffset) := by
  by_cases h : elementOffset + 32 ≤ regionData.length ∧ elementOffset + 32 < 2 ^ 64
  · have hfield : ∀ lo hi, lo ≤ hi → hi ≤ 32 → readField regionData elementOffset lo hi =
        some (fromNeBytes ((regionData.drop (elementOffset + lo)).take (hi - lo))) :=
      fun lo hi hlo hhi => readField_of_le hlo (by omega) (by omega)
    simp [ElementHeader.read, ElementHeader.decode, hfield, h.1, h.2, List.drop_drop, eq_comm,
      Nat.add_comm, -Nat.reducePow]
  · have hnone : ElementHeader.read regionData elementOffset = none := by
      simp [ElementHeader.read, readField_eq_none h]
    simp only [hnone, reduceCtorEq, false_iff]
    exact fun ⟨h1, h2, _⟩ => h ⟨h1, h2⟩

/-! ## The element loop -/

/-- One pass of the element loop: read the header at the cursor, then move the
cursor past the header's `offset` and the payload's `size`. -/
def Region.nextElement (regionData : List UInt8) (elementOffset : Nat) :
    Option (ElementHeader × Nat) := do
  let header ← ElementHeader.read regionData elementOffset
  let next ← checkedAdd (← checkedAdd header.offset elementOffset) header.size
  pure (header, next)

/-- The element loop of `Region::new`, with `fuel` passes left. -/
def Region.elementLoop (regionData : List UInt8) (fatSize : Nat) :
    Nat → Nat → List Element → Exec (List Element)
  | 0, _, _ => .fuelOut
  | fuel + 1, elementOffset, elements =>
    if elementOffset < fatSize then
      match Region.nextElement regionData elementOffset with
      | some (header, next) =>
        Region.elementLoop regionData fatSize fuel next (elements ++ [⟨header⟩])
      | none => .panic
    else .done elements

def Region.new (fuel : Nat) (gpuCodeData : List UInt8) (startOffset : Nat) : Exec Region := do
  let regionData ← Exec.ofOption (sliceFrom gpuCodeData startOffset)
  let header ← Exec.ofOption (RegionHeader.read regionData)
  let elements ← Region.elementLoop regionData header.fatSize fuel RegionHeader.size []
  pure ⟨header, elements⟩

def Region.size (region : Region) : Option Nat :=
  checkedAdd region.header.fatSize RegionHeader.size

def Region.findMostFitCapability (region : Region) (targetCap : Nat) : Nat :=
  region.elements.foldl (fun mostFitCap e =>
    if e.header.capability ≤ targetCap ∧ e.header.capability > mostFitCap then
      e.header.capability
    else mostFitCap) 0

/-- The region loop of `GPUCode::new`, with `fuel` passes left; every call of
`Region::new` gets the budget `regionFuel`. -/
def GPUCode.regionLoop (regionFuel : Nat) (gpuCodeData : List UInt8) :
    Nat → Nat → List Region → Exec (List Region)
  | 0, _, _ => .fuelOut
  | fuel + 1, offset, regions =>
    if offset < gpuCodeData.length then do
      let region ← Region.new regionFuel gpuCodeData offset
      let size ← Exec.ofOption region.size
      let next ← Exec.ofOption (checkedAdd offset size)
      GPUCode.regionLoop regionFuel gpuCodeData fuel next (regions ++ [region])
    else .done regions

/-- `GPUCode::new`, each of its loops on the budget `fuel`. -/
def GPUCode.new (fuel : Nat) (gpuCodeData : List UInt8) : Exec GPUCode := do
  let regions ← GPUCode.regionLoop fuel gpuCodeData fuel 0 []
  pure ⟨regions⟩

/-! ## What the loops read -/

/-- How far one pass of the element loop moves the cursor. -/
def Element.advance (element : Element) : Nat := element.header.offset + element.header.size

theorem Region.nextElement_eq_some {regionData : List UInt8} {elementOffset next : Nat}
    {header : ElementHeader} :
    Region.nextElement regionData elementOffset = some (header, next) ↔
      ElementHeader.read regionData elementOffset = some header ∧
        header.offset + elementOffset + header.size < 2 ^ 64 ∧
          next = header.offset + elementOffset + header.size := by
  cases hread : ElementHeader.read regionData elementOffset with
  | none => simp [Region.nextElement, hread]
  | some read =>
    by_cases hsum : read.offset + elementOffset + read.size < 2 ^ 64
    · simp only [Region.nextElement, hread, Option.bind_eq_bind, Option.some_bind,
        checkedAdd_of_lt hsum, checkedAdd_of_lt (show read.offset + elementOffset < 2 ^ 64 by omega)]
      constructor
      · rintro ⟨⟩; exact ⟨rfl, hsum, rfl⟩
      · rintro ⟨⟨⟩, -, rfl⟩; rfl
    · have hnone : Region.nextElement regionData elementOffset = none := by
        cases hfirst : checkedAdd read.offset elementOffset with
        | none => simp [Region.nextElement, hread, hfirst]
        | some first =>
          have hsecond : checkedAdd first read.size = none := by
            simp only [checkedAdd]; rw [checkedAdd_eq_some] at hfirst; rw [if_neg (by omega)]
          simp [Region.nextElement, hread, hfirst, hsecond]
      simp only [hnone, reduceCtorEq, Option.some.injEq, false_iff]
      rintro ⟨rfl, h, -⟩
      exact hsum h

/-- The elements the element loop reads from cursor `elementOffset` on. -/
inductive Region.ElementsFrom (regionData : List UInt8) (fatSize : Nat) :
    Nat → List Element → Prop
  | stop {elementOffset : Nat} : fatSize ≤ elementOffset →
      Region.ElementsFrom regionData fatSize elementOffset []
  | read {elementOffset next : Nat} {header : ElementHeader} {elements : List Element} :
      elementOffset < fatSize →
      Region.nextElement regionData elementOffset = some (header, next) →
      Region.ElementsFrom regionData fatSize next elements →
      Region.ElementsFrom regionData fatSize elementOffset (⟨header⟩ :: elements)

theorem Region.elementLoop_sound {regionData : List UInt8} {fatSize : Nat} :
    ∀ {fuel elementOffset : Nat} {elements result : List Element},
      Region.elementLoop regionData fatSize fuel elementOffset elements = .done result →
      ∃ read, result = elements ++ read ∧
        Region.ElementsFrom regionData fatSize elementOffset read := by
  intro fuel
  induction fuel with
  | zero => intro _ _ _ h; cases h
  | succ fuel ih =>
    intro elementOffset elements result h
    simp only [Region.elementLoop] at h
    split_ifs at h with hlt
    · cases hnext : Region.nextElement regionData elementOffset with
      | none => simp [hnext] at h
      | some step =>
        obtain ⟨header, next⟩ := step
        simp only [hnext] at h
        obtain ⟨read, rfl, hread⟩ := ih h
        exact ⟨⟨header⟩ :: read, by simp, .read hlt hnext hread⟩
    · cases h
      exact ⟨[], by simp, .stop (Nat.le_of_not_lt hlt)⟩

theorem Region.elementLoop_complete {regionData : List UInt8} {fatSize elementOffset : Nat}
    {read : List Element} (h : Region.ElementsFrom regionData fatSize elementOffset read) :
    ∀ {fuel : Nat} (elements : List Element), read.length < fuel →
      Region.elementLoop regionData fatSize fuel elementOffset elements =
        .done (elements ++ read) := by
  induction h with
  | stop hle =>
    intro fuel elements hfuel
    obtain ⟨fuel, rfl⟩ : ∃ n, fuel = n + 1 := ⟨fuel - 1, by simp at hfuel; omega⟩
    simp [Region.elementLoop, Nat.not_lt.mpr hle]
  | read hlt hnext _ ih =>
    intro fuel elements hfuel
    obtain ⟨fuel, rfl⟩ : ∃ n, fuel = n + 1 := ⟨fuel - 1, by simp at hfuel; omega⟩
    simp [Region.elementLoop, hlt, hnext, ih _ (by simpa using hfuel)]

/-- What `Region::new` reads when it starts at `startOffset`. -/
structure Region.ReadAt (gpuCodeData : List UInt8) (startOffset : Nat) (region : Region) :
    Prop where
  start_le : startOffset ≤ gpuCodeData.length
  header_eq : RegionHeader.read (gpuCodeData.drop startOffset) = some region.header
  elements_from : Region.ElementsFrom (gpuCodeData.drop startOffset) region.header.fatSize
    RegionHeader.size region.elements

theorem Region.new_sound {fuel startOffset : Nat} {gpuCodeData : List UInt8} {region : Region}
    (h : Region.new fuel gpuCodeData startOffset = .done region) :
    Region.ReadAt gpuCodeData startOffset region := by
  by_cases hle : startOffset ≤ gpuCodeData.length
  · simp only [Region.new, sliceFrom_of_le hle, Exec.ofOption_some, Exec.done_bind] at h
    cases hhdr : RegionHeader.read (gpuCodeData.drop startOffset) with
    | none => simp [hhdr] at h
    | some header =>
      obtain ⟨elements, hloop, hdone⟩ := Exec.bind_eq_done.mp (by simpa [hhdr] using h)
      obtain ⟨read, rfl, hread⟩ := Region.elementLoop_sound hloop
      cases hdone
      exact ⟨hle, hhdr, by simpa using hread⟩
  · simp [Region.new, sliceFrom, hle] at h

theorem Region.new_complete {fuel startOffset : Nat} {gpuCodeData : List UInt8}
    {region : Region} (h : Region.ReadAt gpuCodeData startOffset region)
    (hfuel : region.elements.length < fuel) :
    Region.new fuel gpuCodeData startOffset = .done region := by
  simp [Region.new, sliceFrom_of_le h.start_le, h.header_eq,
    Region.elementLoop_complete h.elements_from [] hfuel]

/-- The regions the region loop reads from `offset` on. -/
inductive GPUCode.RegionsFrom (gpuCodeData : List UInt8) : Nat → List Region → Prop
  | stop {offset : Nat} : gpuCodeData.length ≤ offset → GPUCode.RegionsFrom gpuCodeData offset []
  | read {offset size next : Nat} {region : Region} {regions : List Region} :
      offset < gpuCodeData.length → Region.ReadAt gpuCodeData offset region →
      region.size = some size → checkedAdd offset size = some next →
      GPUCode.RegionsFrom gpuCodeData next regions →
      GPUCode.RegionsFrom gpuCodeData offset (region :: regions)

theorem GPUCode.regionLoop_sound {regionFuel : Nat} {gpuCodeData : List UInt8} :
    ∀ {fuel offset : Nat} {regions result : List Region},
      GPUCode.regionLoop regionFuel gpuCodeData fuel offset regions = .done result →
      ∃ read, result = regions ++ read ∧ GPUCode.RegionsFrom gpuCodeData offset read := by
  intro fuel
  induction fuel with
  | zero => intro _ _ _ h; cases h
  | succ fuel ih =>
    intro offset regions result h
    simp only [GPUCode.regionLoop] at h
    split_ifs at h with hlt
    · obtain ⟨region, hnew, h⟩ := Exec.bind_eq_done.mp h
      obtain ⟨size, hsize, h⟩ := Exec.bind_eq_done.mp h
      obtain ⟨next, hnext, h⟩ := Exec.bind_eq_done.mp h
      obtain ⟨read, rfl, hread⟩ := ih h
      exact ⟨region :: read, by simp,
        .read hlt (Region.new_sound hnew) (Exec.ofOption_eq_done.mp hsize)
          (Exec.ofOption_eq_done.mp hnext) hread⟩
    · cases h
      exact ⟨[], by simp, .stop (Nat.le_of_not_lt hlt)⟩

theorem GPUCode.regionLoop_complete {regionFuel : Nat} {gpuCodeData : List UInt8}
    {offset : Nat} {read : List Region} (h : GPUCode.RegionsFrom gpuCodeData offset read)
    (hregion : ∀ region ∈ read, region.elements.length < regionFuel) :
    ∀ {fuel : Nat} (regions : List Region), read.length < fuel →
      GPUCode.regionLoop regionFuel gpuCodeData fuel offset regions =
        .done (regions ++ read) := by
  induction h with
  | stop hle =>
    intro fuel regions hfuel
    obtain ⟨fuel, rfl⟩ : ∃ n, fuel = n + 1 := ⟨fuel - 1, by simp at hfuel; omega⟩
    simp [GPUCode.regionLoop, Nat.not_lt.mpr hle]
  | read hlt hread hsize hnext _ ih =>
    intro fuel regions hfuel
    obtain ⟨fuel, rfl⟩ : ∃ n, fuel = n + 1 := ⟨fuel - 1, by simp at hfuel; omega⟩
    simp [GPUCode.regionLoop, hlt, Region.new_complete hread (hregion _ (by simp)), hsize,
      hnext, ih (fun r hr => hregion r (by simp [hr])) _ (by simpa using hfuel)]

theorem GPUCode.new_sound {fuel : Nat} {gpuCodeData : List UInt8} {gpuCode : GPUCode}
    (h : GPUCode.new fuel gpuCodeData = .done gpuCode) :
    GPUCode.RegionsFrom gpuCodeData 0 gpuCode.regions := by
  obtain ⟨regions, hloop, hdone⟩ := Exec.bind_eq_done.mp h
  obtain ⟨read, rfl, hread⟩ := GPUCode.regionLoop_sound hloop
  cases hdone
  simpa using hread

theorem GPUCode.new_complete {fuel : Nat} {gpuCodeData : List UInt8} {regions : List Region}
    (h : GPUCode.RegionsFrom gpuCodeData 0 regions) (hfuel : regions.length < fuel)
    (hregion : ∀ region ∈ regions, region.elements.length < fuel) :
    GPUCode.new fuel gpuCodeData = .done ⟨regions⟩ := by
  simp [GPUCode.new, GPUCode.regionLoop_complete h hregion [] hfuel]

/-! ## Where the loops read -/

/-- How far the region loop moves its cursor past a region: `fat_size + 16`. -/
def Region.stride (region : Region) : Nat := region.header.fatSize + RegionHeader.size

/-- The region-relative cursor at which the element loop read element `j`. -/
def Region.elementOffset (region : Region) (j : Nat) : Nat :=
  RegionHeader.size + ((region.elements.take j).map Element.advance).sum

/-- The offset into the section at which the region loop read region `i`. -/
def GPUCode.regionOffset (gpuCode : GPUCode) (i : Nat) : Nat :=
  ((gpuCode.regions.take i).map Region.stride).sum

theorem Region.size_eq_some {region : Region} {size : Nat} :
    region.size = some size ↔ region.stride < 2 ^ 64 ∧ region.stride = size :=
  checkedAdd_eq_some

theorem Region.ElementsFrom.read_at {regionData : List UInt8} {fatSize elementOffset : Nat}
    {elements : List Element} (h : Region.ElementsFrom regionData fatSize elementOffset elements)
    {j : Nat} {element : Element} (hj : elements[j]? = some element) :
    elementOffset + ((elements.take j).map Element.advance).sum < fatSize ∧
      ElementHeader.read regionData
        (elementOffset + ((elements.take j).map Element.advance).sum) = some element.header ∧
      elementOffset + ((elements.take j).map Element.advance).sum + element.advance < 2 ^ 64 := by
  induction h generalizing j with
  | stop => simp at hj
  | read hlt hnext _ ih =>
    obtain ⟨hread, hsum, rfl⟩ := Region.nextElement_eq_some.mp hnext
    cases j with
    | zero =>
      obtain rfl : element = ⟨_⟩ := by simpa using hj.symm
      exact ⟨by simpa using hlt, by simpa using hread, by simp [Element.advance]; omega⟩
    | succ j =>
      obtain ⟨h1, h2, h3⟩ := ih (by simpa using hj)
      simp only [List.take_succ_cons, List.map_cons, List.sum_cons, Element.advance] at h1 h2 h3 ⊢
      refine ⟨by omega, ?_, by omega⟩
      convert h2 using 2
      omega

theorem Region.ReadAt.element_at {gpuCodeData : List UInt8} {startOffset j : Nat}
    {region : Region} {element : Element} (h : Region.ReadAt gpuCodeData startOffset region)
    (hj : region.elements[j]? = some element) :
    region.elementOffset j < region.header.fatSize ∧
      ElementHeader.read (gpuCodeData.drop startOffset) (region.elementOffset j) =
        some element.header ∧
      region.elementOffset j + element.advance < 2 ^ 64 :=
  h.elements_from.read_at hj

theorem GPUCode.RegionsFrom.read_at {gpuCodeData : List UInt8} {offset i : Nat}
    {regions : List Region} {region : Region} (h : GPUCode.RegionsFrom gpuCodeData offset regions)
    (hi : regions[i]? = some region) :
    offset + ((regions.take i).map Region.stride).sum < gpuCodeData.length ∧
      Region.ReadAt gpuCodeData (offset + ((regions.take i).map Region.stride).sum) region ∧
      offset + ((regions.take i).map Region.stride).sum + region.stride < 2 ^ 64 := by
  induction h generalizing i with
  | stop => simp at hi
  | read hlt hread hsize hnext _ ih =>
    obtain ⟨-, rfl⟩ := Region.size_eq_some.mp hsize
    obtain ⟨hbound, rfl⟩ := checkedAdd_eq_some.mp hnext
    cases i with
    | zero =>
      obtain rfl : region = _ := by simpa using hi.symm
      exact ⟨by simpa using hlt, by simpa using hread, by simpa using hbound⟩
    | succ i =>
      obtain ⟨h1, h2, h3⟩ := ih (by simpa using hi)
      simp only [List.take_succ_cons, List.map_cons, List.sum_cons, ← Nat.add_assoc]
      exact ⟨h1, h2, h3⟩

end NegativaMl
