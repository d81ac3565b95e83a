import NegativaMl.FatBinaryLayout
import NegativaMl.Locator
import NegativaMl.Reconstructor
import Mathlib.Algebra.Order.BigOperators.Group.List

/-!
# What `KernelLocator::new` records

The tables of a locator that `KernelLocator::new` returned, read against the
parser's own view of the section.

Kernels: the extracted cubin files are handed out in (region, element) order,
one per cubin element, the counter running on across region boundaries.  The
constructor panics when it runs out of files, but it accepts more files than
there are cubin elements and never looks at the rest.

Spans: the locator recomputes every element's position from the region's
declared `header_size`, whereas the parser starts a region's elements at the
fixed `RegionHeader::size()` of 16 bytes, so the two agree exactly when the
declared `header_size` is 16.  Neither side checks an element's `offset + size`
or a region's `fat_size` against the bytes present; the spans nest inside
their regions, in order, exactly when those declared sizes fit.
-/

namespace NegativaMl

open KernelLocator

def GPUCode.cubinTotal (gpuCode : GPUCode) : Nat :=
  (gpuCode.regions.map fun region => cubinCount region.elements).sum

/-- The cubin elements before element `j` of region `i`, in (region, element)
order. -/
def GPUCode.cubinsBefore (gpuCode : GPUCode) (i j : Nat) : Nat :=
  ((gpuCode.regions.take i).map fun region => cubinCount region.elements).sum +
    (gpuCode.regions[i]?.map fun region => cubinCount (region.elements.take j)).getD 0

theorem GPUCode.cubinsBefore_of_getElem? {gpuCode : GPUCode} {i j : Nat} {region : Region}
    (hi : gpuCode.regions[i]? = some region) :
    gpuCode.cubinsBefore i j =
      ((gpuCode.regions.take i).map fun region => cubinCount region.elements).sum +
        cubinCount (region.elements.take j) := by
  simp [GPUCode.cubinsBefore, hi]

/-! ## Positions as prefix sums -/

theorem sum_map_take_succ {α : Type} {f : α → Nat} {l : List α} {j : Nat} {a : α}
    (h : l[j]? = some a) : ((l.take (j + 1)).map f).sum = ((l.take j).map f).sum + f a := by
  obtain ⟨hj, rfl⟩ := List.getElem?_eq_some_iff.mp h
  rw [List.map_take, List.map_take, List.sum_take_succ _ _ (by simpa using hj), List.getElem_map]

theorem sum_map_take_mono {α : Type} (f : α → Nat) (l : List α) {m n : Nat} (h : m ≤ n) :
    ((l.take m).map f).sum ≤ ((l.take n).map f).sum := by
  simpa only [List.map_take] using List.monotone_sum_take (l.map f) h

theorem sum_map_take_le {α : Type} (f : α → Nat) (l : List α) (n : Nat) :
    ((l.take n).map f).sum ≤ (l.map f).sum := by
  have := List.sum_take_add_sum_drop (l.map f) n
  rw [List.map_take]
  omega

theorem GPUCode.regionOffset_succ {gpuCode : GPUCode} {i : Nat} {region : Region}
    (hi : gpuCode.regions[i]? = some region) :
    gpuCode.regionOffset (i + 1) = gpuCode.regionOffset i + region.stride :=
  sum_map_take_succ hi

/-- Every region's elements, placed as the locator places them, end inside the
region, and the regions end inside a section of `sectionSize` bytes. -/
structure GPUCode.Contained (gpuCode : GPUCode) (sectionSize : Nat) : Prop where
  elements_within : ∀ region ∈ gpuCode.regions,
    region.header.headerSize + (region.elements.map Element.advance).sum ≤ region.stride
  regions_within : (gpuCode.regions.map Region.stride).sum ≤ sectionSize

instance (gpuCode : GPUCode) (sectionSize : Nat) : Decidable (gpuCode.Contained sectionSize) :=
  decidable_of_iff ((∀ region ∈ gpuCode.regions,
      region.header.headerSize + (region.elements.map Element.advance).sum ≤ region.stride) ∧
      (gpuCode.regions.map Region.stride).sum ≤ sectionSize)
    ⟨fun h => ⟨h.1, h.2⟩, fun h => ⟨h.1, h.2⟩⟩

namespace KernelLocator

/-- What a locator built with the cubin files `cubinPaths` and the extraction
`extractCubinKernels` records: enough files for its cubin elements, tables of
the regions' shape, a span for every element, no kernel for a non-cubin, and
for a cubin the kernels of the file handed out after those of the cubins
before it. -/
structure CubinsHandedOut (locator : KernelLocator) (cubinPaths : List String)
    (extractCubinKernels : String → Option (Finset String)) : Prop where
  enough_paths : locator.gpuCode.cubinTotal ≤ cubinPaths.length
  elementSpan_shape : locator.elementSpan.map List.length =
    locator.gpuCode.regions.map fun region => region.elements.length
  elementKernels_shape : locator.elementKernels.map List.length =
    locator.gpuCode.regions.map fun region => region.elements.length
  span_found : ∀ i j region element, locator.gpuCode.regions[i]? = some region →
    region.elements[j]? = some element → ∃ span, locator.getElementSpan i j = some span
  non_cubin_kernels : ∀ i j region element, locator.gpuCode.regions[i]? = some region →
    region.elements[j]? = some element → element.header.fileType ≠ 2 →
      locator.getElementKernels i j = some ∅
  cubin_kernels : ∀ i j region element, locator.gpuCode.regions[i]? = some region →
    region.elements[j]? = some element → element.header.fileType = 2 →
      ∃ path, cubinPaths[locator.gpuCode.cubinsBefore i j]? = some path ∧
        extractCubinKernels path = locator.getElementKernels i j

/-- The parser of `gpuCodeData` read region `i` at `p = regionOffset i` and
the header of its element `j` at the region-relative cursor `q = elementOffset j`,
and the locator's span for that element starts at
`sectionOffset + p + header_size + (q - 16) + offset` and is `size` bytes long. -/
def SpansAtCursors (locator : KernelLocator) (gpuCodeData : List UInt8) (sectionOffset : Nat) :
    Prop :=
  ∀ i j region element, locator.gpuCode.regions[i]? = some region →
    region.elements[j]? = some element →
    Region.ReadAt gpuCodeData (locator.gpuCode.regionOffset i) region ∧
    ElementHeader.read (gpuCodeData.drop (locator.gpuCode.regionOffset i))
      (region.elementOffset j) = some element.header ∧
    locator.getElementSpan i j = some
      ⟨sectionOffset + locator.gpuCode.regionOffset i + region.header.headerSize +
          (region.elementOffset j - RegionHeader.size) + element.header.offset,
        sectionOffset + locator.gpuCode.regionOffset i + region.header.headerSize +
          (region.elementOffset j - RegionHeader.size) + element.header.offset +
          element.header.size⟩

/-- The spans of `locator`, for a section of `sectionSize` bytes at file offset
`sectionOffset`: each lies inside its region's bytes, `16 + fat_size` of them
from `sectionOffset + regionOffset i`, each region's bytes lie inside the
section, and the spans follow one another in (region, element) order, so no
two of them overlap. -/
structure SpansNested (locator : KernelLocator) (sectionOffset sectionSize : Nat) : Prop where
  within_region : ∀ i j region span, locator.gpuCode.regions[i]? = some region →
    locator.getElementSpan i j = some span →
      span.start ≤ span.end ∧ sectionOffset + locator.gpuCode.regionOffset i ≤ span.start ∧
        span.end ≤ sectionOffset + locator.gpuCode.regionOffset i + region.stride
  region_within_section : ∀ i region, locator.gpuCode.regions[i]? = some region →
    locator.gpuCode.regionOffset i + region.stride ≤ sectionSize
  ordered : ∀ i j i' j' span span', i < i' ∨ i = i' ∧ j < j' →
    locator.getElementSpan i j = some span → locator.getElementSpan i' j' = some span' →
      span.end ≤ span'.start

/-- What `Reconstructor::rewrite` can do with spans of `locator`, for a
section of `sectionSize` bytes at file offset `sectionOffset`: fed the spans of
any of its elements, on a file that holds the section, it returns, and every
byte it changes lies in the section, in the span of a fed element, and in the
span of no other element. -/
def RewriteConfined (locator : KernelLocator) (sectionOffset sectionSize : Nat) : Prop :=
  ∀ (spans : List ElementSpan) (soData : List UInt8),
    (∀ span ∈ spans, ∃ i j, locator.getElementSpan i j = some span) →
    sectionOffset + sectionSize ≤ soData.length →
    ∃ rewritten, Reconstructor.rewrite soData spans = some rewritten ∧
      ∀ index, rewritten[index]? ≠ soData[index]? →
        sectionOffset ≤ index ∧ index < sectionOffset + sectionSize ∧
        ∃ i j span, span ∈ spans ∧ locator.getElementSpan i j = some span ∧
          span.Contains index ∧ ∀ i' j' span', locator.getElementSpan i' j' = some span' →
            span'.Contains index → i' = i ∧ j' = j

section Nested

variable {locator : KernelLocator} {sectionOffset sectionSize : Nat}

theorem SpansNested.within_section (h : locator.SpansNested sectionOffset sectionSize)
    {i j : Nat} {span : ElementSpan} (hspan : locator.getElementSpan i j = some span) :
    sectionOffset ≤ span.start ∧ span.end ≤ sectionOffset + sectionSize := by
  obtain ⟨region, -, hi, -⟩ := lookup_eq_some hspan
  have := h.within_region i j region span hi hspan
  have := h.region_within_section i region hi
  omega

theorem SpansNested.eq_of_contains (h : locator.SpansNested sectionOffset sectionSize)
    {i j i' j' index : Nat} {span span' : ElementSpan}
    (hspan : locator.getElementSpan i j = some span)
    (hspan' : locator.getElementSpan i' j' = some span')
    (hin : span.Contains index) (hin' : span'.Contains index) : i' = i ∧ j' = j := by
  obtain ⟨hle, hlt⟩ := hin
  obtain ⟨hle', hlt'⟩ := hin'
  rcases Nat.lt_trichotomy i i' with hi | rfl | hi
  · exact absurd (h.ordered i j i' j' span span' (.inl hi) hspan hspan') (by omega)
  · rcases Nat.lt_trichotomy j j' with hj | rfl | hj
    · exact absurd (h.ordered i j i j' span span' (.inr ⟨rfl, hj⟩) hspan hspan') (by omega)
    · exact ⟨rfl, rfl⟩
    · exact absurd (h.ordered i j' i j span' span (.inr ⟨rfl, hj⟩) hspan' hspan) (by omega)
  · exact absurd (h.ordered i' j' i j span' span (.inl hi) hspan' hspan) (by omega)

/-- Nested spans confine `rewrite`: by `rewrite_eq` it changes exactly the
bytes the fed spans cover, which lie in the section and in one element's
span each. -/
theorem SpansNested.rewriteConfined (h : locator.SpansNested sectionOffset sectionSize) :
    locator.RewriteConfined sectionOffset sectionSize := by
  intro spans soData hspans hlen
  have hfit : ∀ span ∈ spans, span.start < span.end → span.end ≤ soData.length :=
    fun span hmem _ => by
      obtain ⟨i, j, hij⟩ := hspans span hmem
      have := h.within_section hij
      omega
  refine ⟨_, by rw [Reconstructor.rewrite_eq, if_pos hfit], fun index hchanged => ?_⟩
  rw [getElem?_markBytes] at hchanged
  obtain ⟨span, hmem, hin⟩ : ∃ span ∈ spans, span.Contains index := by
    by_contra hnone
    have hfalse : (spans.any fun span => decide (span.Contains index)) = false := by
      simpa using hnone
    simp [hfalse] at hchanged
  obtain ⟨i, j, hij⟩ := hspans span hmem
  have hsection := h.within_section hij
  have hinside : span.start ≤ index ∧ index < span.end := hin
  exact ⟨by omega, by omega, i, j, span, hmem, hij, hin,
    fun i' j' span' hij' hin' => h.eq_of_contains hij hij' hin hin'⟩

end Nested

section New

variable {soPath : String} {soData : List UInt8} {gpuCodeStartOffset gpuCodeSize : Nat}
  {cubinPaths : List String} {extractCubinKernels : String → Option (Finset String)}
  {fuel : Nat} {locator : KernelLocator}

/-- An empty section and one extracted cubin file: the locator is built, and
the file count is not the cubin element count. -/
theorem new_accepts_unused_cubin_path :
    ∃ locator, new "libdemo.so" [] 0 0 ["demo.sm_70.cubin"] (fun _ => some ∅) 1 =
        .done locator ∧ locator.gpuCode.cubinTotal ≠ ["demo.sm_70.cubin"].length :=
  ⟨_, rfl, by decide⟩

theorem getElementKernels_of_new
    (h : new soPath soData gpuCodeStartOffset gpuCodeSize cubinPaths extractCubinKernels fuel =
      .done locator)
    {i j : Nat} {region : Region} {element : Element}
    (hi : locator.gpuCode.regions[i]? = some region) (hj : region.elements[j]? = some element) :
    ∃ kernels, locator.getElementKernels i j = some kernels ∧
      some kernels = if element.header.fileType ≠ 2 then some ∅
        else cubinPaths[locator.gpuCode.cubinsBefore i j]?.bind extractCubinKernels := by
  obtain ⟨-, -, -, -, hpass⟩ := new_sound h
  obtain ⟨row, kernels, hrow, hkernels, hlookup⟩ :=
    lookup_of_shape locator.elementKernels_shape hi (List.getElem?_eq_some_iff.mp hj).1
  refine ⟨kernels, hlookup, ?_⟩
  have hentry := regionPass_kernels hpass hi hj
  rw [hrow, Option.some_bind, hkernels, Nat.zero_add] at hentry
  rwa [GPUCode.cubinsBefore_of_getElem? hi]

/-- Whenever `KernelLocator::new` returns, there were at least as many cubin
files as cubin elements, the tables have the regions' shape, and element `j`
of region `i` has a span and holds no kernel unless it is a cubin, in which
case it holds the kernels of the file handed out after those of the cubins
before it. -/
theorem new_hands_out_cubin_paths_in_order
    (h : new soPath soData gpuCodeStartOffset gpuCodeSize cubinPaths extractCubinKernels fuel =
      .done locator) :
    locator.CubinsHandedOut cubinPaths extractCubinKernels := by
  obtain ⟨-, -, -, -, hpass⟩ := new_sound h
  refine ⟨by simpa using (regionPass_shape hpass).2.2 (Nat.zero_le _), locator.elementSpan_shape,
    locator.elementKernels_shape, fun i j region element hi hj => ?_,
    fun i j region element hi hj hfile => ?_, fun i j region element hi hj hfile => ?_⟩
  · obtain ⟨-, span, -, -, hspan⟩ :=
      lookup_of_shape locator.elementSpan_shape hi (List.getElem?_eq_some_iff.mp hj).1
    exact ⟨span, hspan⟩
  · obtain ⟨kernels, hlookup, hkernels⟩ := getElementKernels_of_new h hi hj
    simpa [hfile, hlookup] using hkernels
  · obtain ⟨kernels, hlookup, hkernels⟩ := getElementKernels_of_new h hi hj
    rw [if_neg (not_not.mpr hfile), eq_comm, Option.bind_eq_some] at hkernels
    obtain ⟨path, hpath, hextract⟩ := hkernels
    exact ⟨path, hpath, hextract.trans hlookup.symm⟩

set_option maxRecDepth 2000 in
theorem sampleRegion_hands_out_cubin_paths :
    ∃ locator, new "libdemo.so" (serialize [sampleRegion, sampleRegion]) 0 176
        ["demo.1.sm_70.cubin", "demo.2.sm_70.cubin"] (fun path => some {path}) 177 =
        .done locator ∧
      locator.CubinsHandedOut ["demo.1.sm_70.cubin", "demo.2.sm_70.cubin"]
        (fun path => some {path}) := by
  have h : new "libdemo.so" (serialize [sampleRegion, sampleRegion]) 0 176
      ["demo.1.sm_70.cubin", "demo.2.sm_70.cubin"] (fun path => some {path}) 177 = .done _ := rfl
  exact ⟨_, h, new_hands_out_cubin_paths_in_order h⟩

/-! ## Spans -/

theorem getElementSpan_of_new
    (h : new soPath soData gpuCodeStartOffset gpuCodeSize cubinPaths extractCubinKernels fuel =
      .done locator)
    {i j : Nat} {region : Region} {element : Element}
    (hi : locator.gpuCode.regions[i]? = some region) (hj : region.elements[j]? = some element) :
    locator.getElementSpan i j = some
      ⟨gpuCodeStartOffset + locator.gpuCode.regionOffset i + region.header.headerSize +
          ((region.elements.take j).map Element.advance).sum + element.header.offset,
        gpuCodeStartOffset + locator.gpuCode.regionOffset i + region.header.headerSize +
          ((region.elements.take j).map Element.advance).sum + element.header.offset +
          element.header.size⟩ := by
  obtain ⟨-, -, -, -, hpass⟩ := new_sound h
  rw [getElementSpan, lookup_of_lt hi (List.getElem?_eq_some_iff.mp hj).1]
  exact regionPass_span hpass hi hj

theorem getElementSpan_eq_some_of_new
    (h : new soPath soData gpuCodeStartOffset gpuCodeSize cubinPaths extractCubinKernels fuel =
      .done locator)
    {i j : Nat} {span : ElementSpan} (hspan : locator.getElementSpan i j = some span) :
    ∃ region element, locator.gpuCode.regions[i]? = some region ∧
      region.elements[j]? = some element ∧
      span = ⟨gpuCodeStartOffset + locator.gpuCode.regionOffset i + region.header.headerSize +
          ((region.elements.take j).map Element.advance).sum + element.header.offset,
        gpuCodeStartOffset + locator.gpuCode.regionOffset i + region.header.headerSize +
          ((region.elements.take j).map Element.advance).sum + element.header.offset +
          element.header.size⟩ := by
  obtain ⟨region, element, hi, hj⟩ := lookup_eq_some hspan
  rw [getElementSpan_of_new h hi hj, Option.some.injEq] at hspan
  exact ⟨region, element, hi, hj, hspan.symm⟩

/-- Whenever `KernelLocator::new` returns, the parser read each region at
`p = regionOffset i` and each element header at the region-relative cursor
`q = elementOffset j`, and the element's span starts at
`S + p + header_size + (q - 16) + offset` and is `size` bytes long. -/
theorem new_spans_at_parser_cursors
    (h : new soPath soData gpuCodeStartOffset gpuCodeSize cubinPaths extractCubinKernels fuel =
      .done locator) :
    locator.SpansAtCursors ((soData.drop gpuCodeStartOffset).take gpuCodeSize)
      gpuCodeStartOffset := by
  obtain ⟨-, -, -, hgpu, -⟩ := new_sound h
  intro i j region element hi hj
  obtain ⟨-, hread, -⟩ := (GPUCode.new_sound hgpu).read_at hi
  rw [Nat.zero_add] at hread
  refine ⟨hread, (hread.element_at hj).2.1, ?_⟩
  rw [getElementSpan_of_new h hi hj, Region.elementOffset, Nat.add_sub_cancel_left]

theorem sampleRegion_spans_at_parser_cursors :
    ∃ locator, new "libdemo.so" (serialize [sampleRegion]) 0 88 ["demo.sm_70.cubin"]
        (fun _ => some {"vecAdd"}) 89 = .done locator ∧
      locator.SpansAtCursors (((serialize [sampleRegion]).drop 0).take 88) 0 := by
  have h : new "libdemo.so" (serialize [sampleRegion]) 0 88 ["demo.sm_70.cubin"]
      (fun _ => some {"vecAdd"}) 89 = .done _ := rfl
  exact ⟨_, h, new_spans_at_parser_cursors h⟩

/-- One region declaring `header_size = 0` and holding one PTX file: a 32-byte
header and the 4-byte payload it declares. -/
def headerSizeZeroSection : List UInt8 :=
  [0x50, 0xed, 0x55, 0xba, 1, 0, 0, 0, 36, 0, 0, 0, 0, 0, 0, 0] ++
    [1, 0, 1, 1, 32, 0, 0, 0, 4, 0, 0, 0, 0, 0, 0, 0] ++ List.replicate 12 0 ++ [80, 0, 0, 0] ++
    [0x2e, 0x76, 0x65, 0x72]

/-- There the span starts 16 bytes before the parser's position of the payload. -/
theorem new_span_misses_parser_cursor :
    ∃ locator region element,
      new "libdemo.so" headerSizeZeroSection 0 52 [] (fun _ => some ∅) 53 = .done locator ∧
      locator.gpuCode.regions[0]? = some region ∧ region.elements[0]? = some element ∧
      (locator.getElementSpan 0 0).map ElementSpan.start ≠
        some (0 + locator.gpuCode.regionOffset 0 + region.elementOffset 0 + element.header.offset) :=
  ⟨_, _, _, rfl, rfl, rfl, by decide⟩

/-- Whenever `KernelLocator::new` returns on a section whose declared sizes
fit, its spans nest inside their regions and follow one another, so
`Reconstructor::rewrite` fed any of them writes only inside the section and
never a byte of an element it was not fed. -/
theorem new_spans_nested_of_contained
    (h : new soPath soData gpuCodeStartOffset gpuCodeSize cubinPaths extractCubinKernels fuel =
      .done locator)
    (hcontained : locator.gpuCode.Contained gpuCodeSize) :
    locator.SpansNested gpuCodeStartOffset gpuCodeSize ∧
      locator.RewriteConfined gpuCodeStartOffset gpuCodeSize := by
  have hfits : ∀ {i j : Nat} {region : Region} {element : Element}, locator.gpuCode.regions[i]? = some region →
      region.elements[j]? = some element →
      region.header.headerSize + ((region.elements.take j).map Element.advance).sum +
        element.header.offset + element.header.size ≤ region.stride := by
    intro i j region element hi hj
    have hwithin := hcontained.elements_within region (List.getElem?_mem hi)
    have hsucc := sum_map_take_succ (f := Element.advance) hj
    have hle := sum_map_take_le Element.advance region.elements (j + 1)
    simp only [Element.advance] at hsucc
    omega
  have hnested : locator.SpansNested gpuCodeStartOffset gpuCodeSize := by
    refine ⟨fun i j region span hi hspan => ?_, fun i region hi => ?_,
      fun i j i' j' span span' horder hspan hspan' => ?_⟩
    · obtain ⟨region', element, hi', hj, rfl⟩ := getElementSpan_eq_some_of_new h hspan
      obtain rfl : region = region' := Option.some.inj (hi.symm.trans hi')
      have := hfits hi hj
      dsimp only
      omega
    · have hsucc := GPUCode.regionOffset_succ hi
      have hle : locator.gpuCode.regionOffset (i + 1) ≤
          (locator.gpuCode.regions.map Region.stride).sum := sum_map_take_le _ _ _
      have := hcontained.regions_within
      omega
    · obtain ⟨region, element, hi, hj, rfl⟩ := getElementSpan_eq_some_of_new h hspan
      obtain ⟨region', element', hi', hj', rfl⟩ := getElementSpan_eq_some_of_new h hspan'
      have := hfits hi hj
      dsimp only
      rcases horder with hlt | ⟨rfl, hlt⟩
      · have hsucc := GPUCode.regionOffset_succ hi
        have hmono : locator.gpuCode.regionOffset (i + 1) ≤ locator.gpuCode.regionOffset i' :=
          sum_map_take_mono _ _ hlt
        omega
      · obtain rfl : region = region' := Option.some.inj (hi.symm.trans hi')
        have hsucc := sum_map_take_succ (f := Element.advance) hj
        have hmono := sum_map_take_mono Element.advance region.elements (show j + 1 ≤ j' from hlt)
        simp only [Element.advance] at hsucc
        omega
  exact ⟨hnested, hnested.rewriteConfined⟩

theorem sampleRegion_spans_nested :
    ∃ locator, new "libdemo.so" (serialize [sampleRegion]) 0 88 ["demo.sm_70.cubin"]
        (fun _ => some {"vecAdd"}) 89 = .done locator ∧ locator.gpuCode.Contained 88 ∧
      locator.SpansNested 0 88 ∧ locator.RewriteConfined 0 88 := by
  have h : new "libdemo.so" (serialize [sampleRegion]) 0 88 ["demo.sm_70.cubin"]
      (fun _ => some {"vecAdd"}) 89 = .done _ := rfl
  exact ⟨_, h, by decide, new_spans_nested_of_contained h (by decide)⟩

/-- One region of `fat_size` 32 whose one element declares a 1000-byte
payload: 48 bytes in all. -/
def overlongPayloadSection : List UInt8 :=
  [0x50, 0xed, 0x55, 0xba, 1, 0, 16, 0, 32, 0, 0, 0, 0, 0, 0, 0] ++
    [1, 0, 1, 1, 32, 0, 0, 0, 0xe8, 3, 0, 0, 0, 0, 0, 0] ++ List.replicate 12 0 ++ [80, 0, 0, 0]

/-- There the element's span runs past its region and past the section. -/
theorem new_span_overruns_region :
    ∃ locator region span,
      new "libdemo.so" overlongPayloadSection 0 48 [] (fun _ => some ∅) 49 = .done locator ∧
      locator.gpuCode.regions[0]? = some region ∧ locator.getElementSpan 0 0 = some span ∧
      0 + locator.gpuCode.regionOffset 0 + region.stride < span.end ∧ 0 + 48 < span.end :=
  ⟨_, _, _, rfl, rfl, rfl, by decide⟩

/-! ## When the constructor returns -/

theorem elementPass_isSome (offset headerSize : Nat)
    (hextract : ∀ path ∈ cubinPaths, (extractCubinKernels path).isSome) :
    ∀ (elements : List Element) (innerOffset cubinPathIndex : Nat),
      offset + headerSize + innerOffset + (elements.map Element.advance).sum < 2 ^ 64 →
      cubinPathIndex + cubinCount elements ≤ cubinPaths.length →
      cubinPathIndex + cubinCount elements < 2 ^ 64 →
      ∃ result, elementPass cubinPaths extractCubinKernels offset headerSize elements innerOffset
        cubinPathIndex = some result
  | [], _, _, _, _, _ => ⟨_, rfl⟩
  | element :: elements, innerOffset, cubinPathIndex, hbound, hpaths, hcount => by
    simp only [List.map_cons, List.sum_cons, Element.advance] at hbound
    have hspan : elementSpanStep offset headerSize innerOffset element = some
        (⟨element.header.offset + innerOffset + offset + headerSize,
          element.header.offset + innerOffset + offset + headerSize + element.header.size⟩,
          innerOffset + element.advance) :=
      elementSpanStep_eq_some.mpr ⟨by omega, by simp only [Element.advance]; omega, rfl, rfl⟩
    obtain ⟨kernels, nextIndex, hkernels, hnext⟩ : ∃ kernels nextIndex,
        elementKernelsStep cubinPaths extractCubinKernels element cubinPathIndex =
          some (kernels, nextIndex) ∧
        nextIndex + cubinCount elements = cubinPathIndex + cubinCount (element :: elements) := by
      rw [cubinCount_cons] at hpaths hcount ⊢
      by_cases hcubin : element.header.fileType = 2
      · rw [if_pos hcubin] at hpaths hcount ⊢
        obtain ⟨path, hpath⟩ : ∃ path, cubinPaths[cubinPathIndex]? = some path :=
          ⟨cubinPaths.get ⟨cubinPathIndex, by omega⟩, by simp⟩
        obtain ⟨kernels, hextracted⟩ := Option.isSome_iff_exists.mp
          (hextract path (List.getElem?_mem hpath))
        refine ⟨kernels, cubinPathIndex + 1, elementKernelsStep_eq_some.mpr ?_, by omega⟩
        rw [if_neg (not_not.mpr hcubin), hpath, Option.some_bind]
        exact ⟨hextracted, by omega, rfl⟩
      · rw [if_neg hcubin]
        exact ⟨∅, cubinPathIndex, elementKernelsStep_eq_some.mpr (by rw [if_pos hcubin]; simp),
          rfl⟩
    obtain ⟨⟨spans, kernelSets, next⟩, hrest⟩ := elementPass_isSome offset headerSize hextract elements
      (innerOffset + element.advance) nextIndex (by simp only [Element.advance]; omega)
      (by omega) (by omega)
    exact ⟨_, elementPass_cons_eq_some.mpr ⟨_, _, _, _, _, _, _, hspan, hkernels, hrest, rfl⟩⟩

theorem regionPass_isSome (hextract : ∀ path ∈ cubinPaths, (extractCubinKernels path).isSome) :
    ∀ (regions : List Region) (offset cubinPathIndex : Nat),
      offset + (regions.map Region.stride).sum < 2 ^ 64 →
      (∀ region ∈ regions,
        region.header.headerSize + (region.elements.map Element.advance).sum ≤ region.stride) →
      cubinPathIndex + (regions.map fun region => cubinCount region.elements).sum ≤
        cubinPaths.length →
      cubinPathIndex + (regions.map fun region => cubinCount region.elements).sum < 2 ^ 64 →
      ∃ result, regionPass cubinPaths extractCubinKernels regions offset cubinPathIndex =
        some result
  | [], _, _, _, _, _, _ => ⟨_, rfl⟩
  | region :: regions, offset, cubinPathIndex, hbound, hfit, hpaths, hcount => by
    simp only [List.map_cons, List.sum_cons, List.forall_mem_cons] at hbound hfit hpaths hcount
    obtain ⟨⟨spans, kernels, nextIndex⟩, hpass⟩ := elementPass_isSome offset region.header.headerSize hextract
      region.elements 0
      cubinPathIndex (by omega) (by omega) (by omega)
    have hnext := (elementPass_shape hpass).2.2.1
    obtain ⟨⟨elementSpan, elementKernels⟩, hrest⟩ := regionPass_isSome hextract regions
      (offset + region.stride) nextIndex (by omega) hfit.2 (by omega) (by omega)
    exact ⟨_, regionPass_cons_eq_some.mpr ⟨_, _, _, _, _, hpass, by omega, hrest, rfl⟩⟩

/-- `KernelLocator::new` returns on a section it can slice and parse, whose
declared sizes fit, with a cubin file for every cubin element whose kernels
can be listed. -/
theorem new_returns_of_contained {gpuCodeData : List UInt8} {gpuCode : GPUCode}
    (hlt : gpuCodeStartOffset + gpuCodeSize < 2 ^ 64)
    (hslice : slice soData gpuCodeStartOffset (gpuCodeStartOffset + gpuCodeSize) = some gpuCodeData)
    (hgpu : GPUCode.new fuel gpuCodeData = .done gpuCode)
    (hcontained : gpuCode.Contained gpuCodeSize)
    (hpaths : gpuCode.cubinTotal ≤ cubinPaths.length) (hcount : gpuCode.cubinTotal < 2 ^ 64)
    (hextract : ∀ path ∈ cubinPaths, (extractCubinKernels path).isSome) :
    ∃ locator, new soPath soData gpuCodeStartOffset gpuCodeSize cubinPaths extractCubinKernels
      fuel = .done locator ∧ locator.soPath = soPath ∧ locator.gpuCode = gpuCode := by
  have hwithin := hcontained.regions_within
  obtain ⟨⟨elementSpan, elementKernels⟩, hpass⟩ := regionPass_isSome hextract gpuCode.regions
    gpuCodeStartOffset 0 (by omega) hcontained.elements_within
    (by simpa [GPUCode.cubinTotal] using hpaths) (by simpa [GPUCode.cubinTotal] using hcount)
  obtain ⟨locator, hnew, hsoPath, hgpuCode, -, -⟩ := new_complete hlt hslice hgpu hpass
  exact ⟨locator, hnew, hsoPath, hgpuCode⟩

end New

end KernelLocator

end NegativaMl
