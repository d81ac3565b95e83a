import NegativaMl.FatBinary
import Mathlib.Algebra.Order.BigOperators.Group.List
import Mathlib.Algebra.Order.Ring.Nat

/-!
# Well-formed fat binaries and the parser's round trip

A well-formed section is a sequence of regions, each a 16-byte header that
declares `header_size = 16` and a `fat_size` equal to the bytes of its
elements, followed by the elements; an element is its header, padded to the
`offset` it declares, followed by the `size` payload bytes it declares.  All
other bytes are arbitrary.  On such a section `GPUCode::new` reads back
exactly the declared regions and elements: the element loop compares a
region-relative cursor with the payload size, and that loses no element
because every element header is at least 32 bytes long.
-/

namespace NegativaMl

/-- An element as laid out in a section: the `offset` bytes from the start of
its header to its payload, then its `size` payload bytes. -/
structure ElementImage where
  headerBytes : List UInt8
  payload : List UInt8
  header_length_ge : 32 ≤ headerBytes.length
  offset_eq : (ElementHeader.decode headerBytes).offset = headerBytes.length
  size_eq : (ElementHeader.decode headerBytes).size = payload.length

namespace ElementImage

def bytes (image : ElementImage) : List UInt8 := image.headerBytes ++ image.payload

def element (image : ElementImage) : Element := ⟨ElementHeader.decode image.headerBytes⟩

theorem advance_element (image : ElementImage) : image.element.advance = image.bytes.length := by
  simp [element, Element.advance, bytes, image.offset_eq, image.size_eq]

end ElementImage

/-- A region as laid out in a section: its 16 header bytes and its elements. -/
structure RegionImage where
  headerBytes : List UInt8
  elements : List ElementImage
  header_length : headerBytes.length = RegionHeader.size
  headerSize_eq : (RegionHeader.decode headerBytes).headerSize = RegionHeader.size
  fatSize_eq : (RegionHeader.decode headerBytes).fatSize =
    (elements.map fun element => element.bytes.length).sum

namespace RegionImage

def bytes (image : RegionImage) : List UInt8 :=
  image.headerBytes ++ (image.elements.map ElementImage.bytes).flatten

def region (image : RegionImage) : Region :=
  ⟨RegionHeader.decode image.headerBytes, image.elements.map ElementImage.element⟩

theorem stride_region (image : RegionImage) : image.region.stride = image.bytes.length := by
  simp [Region.stride, region, bytes, image.fatSize_eq, image.header_length, Function.comp_def,
    Nat.add_comm]

end RegionImage

/-- The `.nv_fatbin` section made of the given regions. -/
def serialize (regions : List RegionImage) : List UInt8 :=
  (regions.map RegionImage.bytes).flatten

/-! ## Reading a header back -/

theorem RegionHeader.decode_append {bytes rest : List UInt8} (h : 16 ≤ bytes.length) :
    RegionHeader.decode (bytes ++ rest) = RegionHeader.decode bytes := by
  simp [RegionHeader.decode, List.drop_append_of_le_length (show 6 ≤ bytes.length by omega),
    List.drop_append_of_le_length (show 8 ≤ bytes.length by omega),
    List.take_append_of_le_length (show 2 ≤ (bytes.drop 6).length by simp; omega),
    List.take_append_of_le_length (show 8 ≤ (bytes.drop 8).length by simp; omega)]

theorem ElementHeader.decode_append {bytes rest : List UInt8} (h : 32 ≤ bytes.length) :
    ElementHeader.decode (bytes ++ rest) = ElementHeader.decode bytes := by
  simp [ElementHeader.decode, List.take_append_of_le_length (show 2 ≤ bytes.length by omega),
    List.drop_append_of_le_length (show 4 ≤ bytes.length by omega),
    List.drop_append_of_le_length (show 8 ≤ bytes.length by omega),
    List.drop_append_of_le_length (show 28 ≤ bytes.length by omega),
    List.take_append_of_le_length (show 4 ≤ (bytes.drop 4).length by simp; omega),
    List.take_append_of_le_length (show 8 ≤ (bytes.drop 8).length by simp; omega),
    List.take_append_of_le_length (show 4 ≤ (bytes.drop 28).length by simp; omega)]

/-! ## The loops on a well-formed section -/

/-- The element loop, started at a cursor from which `images` follow, reads
exactly their elements when `fatSize` is 16 short of where they end. -/
theorem Region.elementsFrom_images {regionData : List UInt8} (rest : List UInt8) {fatSize : Nat}
    (hlen : regionData.length < 2 ^ 64) :
    ∀ {elementOffset : Nat} (images : List ElementImage),
      regionData.drop elementOffset = (images.map ElementImage.bytes).flatten ++ rest →
      elementOffset + (images.map ElementImage.bytes).flatten.length =
        RegionHeader.size + fatSize →
      Region.ElementsFrom regionData fatSize elementOffset (images.map ElementImage.element)
  | elementOffset, [], _, hend => .stop (by simp [RegionHeader.size] at hend; omega)
  | elementOffset, image :: images, hdata, hend => by
    simp only [List.map_cons, List.flatten_cons, List.append_assoc] at hdata hend
    have hdataLength := congrArg List.length hdata
    simp only [List.length_drop, List.length_append] at hdataLength hend
    have hge := image.header_length_ge
    have hbytes : image.bytes.length = image.headerBytes.length + image.payload.length := by
      simp [ElementImage.bytes]
    have hread : ElementHeader.read regionData elementOffset = some image.element.header := by
      refine ElementHeader.read_eq_some.mpr ⟨by omega, by omega, ?_⟩
      rw [hdata, ElementImage.bytes, List.append_assoc, ElementHeader.decode_append hge]
      rfl
    have hnext : Region.nextElement regionData elementOffset =
        some (image.element.header, elementOffset + image.bytes.length) := by
      refine Region.nextElement_eq_some.mpr ⟨hread, ?_, ?_⟩ <;>
        simp [ElementImage.element, image.offset_eq, image.size_eq] <;> omega
    refine .read (by simp [RegionHeader.size] at hend ⊢; omega) hnext
      (Region.elementsFrom_images rest hlen images ?_ (by omega))
    rw [← List.drop_drop, hdata, List.drop_left]

/-- The region loop, started at an offset from which exactly `images` follow,
reads exactly their regions. -/
theorem GPUCode.regionsFrom_images {gpuCodeData : List UInt8}
    (hlen : gpuCodeData.length < 2 ^ 64) :
    ∀ {offset : Nat} (images : List RegionImage),
      gpuCodeData.drop offset = serialize images →
      GPUCode.RegionsFrom gpuCodeData offset (images.map RegionImage.region)
  | offset, [], hdata => .stop (by simpa [serialize] using hdata)
  | offset, image :: images, hdata => by
    simp only [serialize, List.map_cons, List.flatten_cons] at hdata
    have hdataLength := congrArg List.length hdata
    simp only [List.length_drop, List.length_append] at hdataLength
    have hheader : image.bytes.length =
        16 + (image.elements.map ElementImage.bytes).flatten.length := by
      simp [RegionImage.bytes, image.header_length, RegionHeader.size]
    have hstride := RegionImage.stride_region image
    have hend : offset + image.region.stride < 2 ^ 64 := by omega
    have hread : Region.ReadAt gpuCodeData offset image.region := by
      refine ⟨by omega, RegionHeader.read_eq_some.mpr ⟨by simp; omega, ?_⟩, ?_⟩
      · rw [hdata, RegionImage.bytes, List.append_assoc,
          RegionHeader.decode_append (by simp [image.header_length, RegionHeader.size])]
        rfl
      · refine Region.elementsFrom_images (serialize images) (by simp; omega)
          image.elements ?_ ?_
        · rw [hdata, RegionImage.bytes, List.append_assoc, List.drop_left' image.header_length,
            serialize]
        · simp [RegionImage.region, image.fatSize_eq, Function.comp_def, Nat.add_comm]
    refine .read (by omega) hread (Region.size_eq_some.mpr ⟨by omega, rfl⟩)
      (checkedAdd_of_lt hend) (GPUCode.regionsFrom_images hlen images ?_)
    rw [hstride, ← List.drop_drop, hdata, List.drop_left, serialize]

/-! ## The round trip -/

theorem RegionImage.elements_length_le (image : RegionImage) :
    image.elements.length ≤ image.bytes.length := by
  have hle := List.length_le_sum_of_one_le (image.elements.map fun e => e.bytes.length)
    (by simp only [List.mem_map]; rintro _ ⟨e, -, rfl⟩; simp [ElementImage.bytes]; have := e.header_length_ge; omega)
  simp only [List.length_map] at hle
  simp [RegionImage.bytes, Function.comp_def]
  omega

theorem RegionImage.bytes_length_le_serialize {images : List RegionImage} {image : RegionImage}
    (h : image ∈ images) : image.bytes.length ≤ (serialize images).length := by
  simpa [serialize] using
    List.le_sum_of_mem (List.mem_map_of_mem (fun i : RegionImage => i.bytes.length) h)

theorem length_le_serialize (images : List RegionImage) :
    images.length ≤ (serialize images).length := by
  have hle := List.length_le_sum_of_one_le (images.map fun image => image.bytes.length)
    (by simp only [List.mem_map]; rintro _ ⟨i, -, rfl⟩
        simp [RegionImage.bytes, i.header_length, RegionHeader.size]; omega)
  simpa [serialize, Function.comp_def] using hle

theorem RegionImage.mapM_size {images : List RegionImage}
    (hlen : (serialize images).length < 2 ^ 64) :
    (images.map RegionImage.region).mapM Region.size =
      some (images.map fun image => image.bytes.length) := by
  induction images with
  | nil => rfl
  | cons image images ih =>
    have hle : image.bytes.length + (serialize images).length < 2 ^ 64 := by
      simpa [serialize] using hlen
    rw [List.map_cons, List.mapM_cons, ih (by omega),
      Region.size_eq_some.mpr ⟨by rw [RegionImage.stride_region]; omega, rfl⟩,
      RegionImage.stride_region]
    rfl

/-- `GPUCode::new` reads a well-formed section back exactly. -/
theorem GPUCode.new_serialize {images : List RegionImage} (hlen : (serialize images).length < 2 ^ 64)
    {fuel : Nat} (hfuel : (serialize images).length < fuel) :
    GPUCode.new fuel (serialize images) = .done ⟨images.map RegionImage.region⟩ := by
  refine GPUCode.new_complete (GPUCode.regionsFrom_images hlen images (by simp)) ?_ ?_
  · simpa using Nat.lt_of_le_of_lt (length_le_serialize images) hfuel
  · simp only [List.mem_map]
    rintro _ ⟨image, himage, rfl⟩
    have := RegionImage.bytes_length_le_serialize himage
    have := image.elements_length_le
    simp [RegionImage.region]
    omega

/-- On a well-formed section, `GPUCode::new` returns exactly the declared
regions, with their declared headers and elements, and the regions' sizes
add up to the section. -/
theorem GPUCode.new_reads_back_serialize (images : List RegionImage)
    (hlen : (serialize images).length < 2 ^ 64) (fuel : Nat)
    (hfuel : (serialize images).length < fuel) :
    GPUCode.new fuel (serialize images) = .done ⟨images.map RegionImage.region⟩ ∧
      ((images.map RegionImage.region).mapM Region.size).map List.sum =
        some (serialize images).length := by
  refine ⟨GPUCode.new_serialize hlen hfuel, ?_⟩
  rw [RegionImage.mapM_size hlen]
  simp [serialize, Function.comp_def]

/-! ## A sample section -/

/-- An `sm_70` cubin: a 32-byte header, then the 4-byte payload it declares. -/
def sampleCubin : ElementImage where
  headerBytes := [2, 0, 1, 1, 32, 0, 0, 0, 4, 0, 0, 0, 0, 0, 0, 0] ++ List.replicate 12 0 ++
    [70, 0, 0, 0]
  payload := [0x7f, 0x45, 0x4c, 0x46]
  header_length_ge := by decide
  offset_eq := by decide
  size_eq := by decide

def samplePtx : ElementImage where
  headerBytes := [1, 0, 1, 1, 32, 0, 0, 0, 4, 0, 0, 0, 0, 0, 0, 0] ++ List.replicate 12 0 ++
    [80, 0, 0, 0]
  payload := [0x2e, 0x76, 0x65, 0x72]
  header_length_ge := by decide
  offset_eq := by decide
  size_eq := by decide

/-- A region holding the two: the fat binary magic and version, `header_size`
16 and `fat_size` 72. -/
def sampleRegion : RegionImage where
  headerBytes := [0x50, 0xed, 0x55, 0xba, 1, 0, 16, 0, 72, 0, 0, 0, 0, 0, 0, 0]
  elements := [sampleCubin, samplePtx]
  header_length := by decide
  headerSize_eq := by decide
  fatSize_eq := by decide

theorem sampleRegion_reads_back :
    (serialize [sampleRegion]).length < 2 ^ 64 ∧ (serialize [sampleRegion]).length < 89 ∧
      GPUCode.new 89 (serialize [sampleRegion]) = .done ⟨[sampleRegion].map RegionImage.region⟩ ∧
      (([sampleRegion].map RegionImage.region).mapM Region.size).map List.sum =
        some (serialize [sampleRegion]).length :=
  ⟨by decide, by decide,
    GPUCode.new_reads_back_serialize [sampleRegion] (by decide) 89 (by decide)⟩

end NegativaMl
