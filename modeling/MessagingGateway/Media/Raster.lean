import MessagingGateway.Store.Schema

/-!
# Static images

An upload is only kept if the bytes are those of one still image. The GIF check walks the
blocks of the file without decoding them. It is a recognizer: the bytes it accepts are those
of a grammar, which is stated here block by block.

A check answers `none` where the code answers with an error.
-/

namespace MessagingGateway.Media

open Store

/-! ### Reading -/

def readFull (count : Nat) (input : Bytes) : Option (Bytes × Bytes) :=
  if count ≤ input.length then some (input.splitAt count) else none

def discardExact (count : Nat) (input : Bytes) : Option Bytes :=
  (readFull count input).map Prod.snd

def uint16 (data : Bytes) (i : Nat) : Int :=
  (data.getD i 0).toNat + 256 * (data.getD (i + 1) 0).toNat

section

variable {count : Nat} {input rest data : Bytes}

theorem readFull_eq_some :
    readFull count input = some (data, rest) ↔ data.length = count ∧ input = data ++ rest := by
  unfold readFull
  constructor
  · intro h
    split at h
    · next hlength =>
      rw [List.splitAt_eq, Option.some.injEq, Prod.mk.injEq] at h
      obtain ⟨rfl, rfl⟩ := h
      exact ⟨List.length_take_of_le hlength, (List.take_append_drop count input).symm⟩
    · exact absurd h nofun
  · rintro ⟨rfl, rfl⟩
    rw [if_pos (by simp), List.splitAt_eq, List.take_left, List.drop_left]

theorem discardExact_eq_some : discardExact count input = some rest ↔
    ∃ data : Bytes, data.length = count ∧ input = data ++ rest := by
  simp [discardExact, Option.map_eq_some_iff, readFull_eq_some]

end

/-! ### The grammar of a static GIF -/

inductive SubBlocks : Bytes → Prop
  | terminator : SubBlocks [0]
  | block {size : UInt8} {data rest : Bytes} (hsize : size ≠ 0) (hdata : data.length = size.toNat)
    (hrest : SubBlocks rest) : SubBlocks (size :: data ++ rest)

def ColourTable (flags : UInt8) (table : Bytes) : Prop :=
  table.length = if flags &&& 0x80 = 0 then 0 else 3 * 2 ^ ((flags &&& 0x07).toNat + 1)

structure Inside (canvasWidth canvasHeight : Int) (descriptor : Bytes) : Prop where
  width : 0 < uint16 descriptor 4
  height : 0 < uint16 descriptor 6
  right : uint16 descriptor 0 + uint16 descriptor 4 ≤ canvasWidth
  bottom : uint16 descriptor 2 + uint16 descriptor 6 ≤ canvasHeight

def Extension (input : Bytes) : Prop :=
  ∃ label blocks, SubBlocks blocks ∧ input = label :: blocks

/-- An image without its marker, whose descriptor meets a condition. -/
def Image (fits : Bytes → Prop) (input : Bytes) : Prop :=
  ∃ descriptor table codeSize blocks, descriptor.length = 9 ∧ fits descriptor ∧
    ColourTable (descriptor.getD 8 0) table ∧ 2 ≤ codeSize ∧ codeSize ≤ 8 ∧ SubBlocks blocks ∧
    input = descriptor ++ (table ++ codeSize :: blocks)

/-- Extensions and `n` images, in any order. -/
inductive Blocks (fits : Bytes → Prop) : Nat → Bytes → Prop
  | nil : Blocks fits 0 []
  | extension {n : Nat} {extension blocks : Bytes} (hextension : Extension extension)
    (hblocks : Blocks fits n blocks) : Blocks fits n (0x21 :: extension ++ blocks)
  | image {n : Nat} {image blocks : Bytes} (himage : Image fits image)
    (hblocks : Blocks fits n blocks) : Blocks fits (n + 1) (0x2c :: image ++ blocks)

def gif87a : Bytes := [0x47, 0x49, 0x46, 0x38, 0x37, 0x61]

def gif89a : Bytes := [0x47, 0x49, 0x46, 0x38, 0x39, 0x61]

/-- A GIF with one image on a canvas of at most `maxPixels` pixels. -/
def StaticGIF (maxPixels : Int) (input : Bytes) : Prop :=
  ∃ header table blocks : Bytes, input = header ++ (table ++ (blocks ++ [0x3b])) ∧
    header.length = 13 ∧ (header.take 6 = gif87a ∨ header.take 6 = gif89a) ∧
    0 < uint16 header 6 ∧ 0 < uint16 header 8 ∧ uint16 header 6 * uint16 header 8 ≤ maxPixels ∧
    ColourTable (header.getD 10 0) table ∧
    Blocks (Inside (uint16 header 6) (uint16 header 8)) 1 blocks

/-! ### The check -/

def discardColourTable (flags : UInt8) (input : Bytes) : Option Bytes :=
  if flags &&& 0x80 ≠ 0 then discardExact (3 * (2 <<< (flags &&& 0x07).toNat)) input
  else some input

def discardGIFSubBlocks : Bytes → Option Bytes
  | [] => none
  | size :: input =>
    if size = 0 then some input
    else match _h : discardExact size.toNat input with
      | none => none
      | some rest => discardGIFSubBlocks rest
termination_by input => input.length
decreasing_by
  obtain ⟨data, -, rfl⟩ := discardExact_eq_some.1 ‹_›
  simp only [List.length_cons, List.length_append]
  omega

/-- The checks of `validateStaticGIF` on the descriptor of an image. -/
def imageAccepted (canvasWidth canvasHeight maxPixels : Int) (descriptor : Bytes) : Bool :=
  let left := uint16 descriptor 0
  let top := uint16 descriptor 2
  let width := uint16 descriptor 4
  let height := uint16 descriptor 6
  !(width < 1 || height < 1 || left > canvasWidth - width || top > canvasHeight - height ||
    width > maxPixels.tdiv height)

def discardExtension (input : Bytes) : Option Bytes := do
  let (_, input) ← readFull 1 input
  discardGIFSubBlocks input

def discardImage (accepted : Bytes → Bool) (input : Bytes) : Option Bytes := do
  let (descriptor, input) ← readFull 9 input
  guard (accepted descriptor)
  let input ← discardColourTable (descriptor.getD 8 0) input
  let (codeSize, input) ← readFull 1 input
  guard (2 ≤ codeSize.getD 0 0 ∧ codeSize.getD 0 0 ≤ 8)
  discardGIFSubBlocks input

section

variable {input rest : Bytes} {accepted : Bytes → Bool}

theorem discardColourTable_eq_some {flags : UInt8} : discardColourTable flags input = some rest ↔
    ∃ table, ColourTable flags table ∧ input = table ++ rest := by
  unfold discardColourTable ColourTable
  by_cases hflagged : flags &&& 0x80 = 0
  · simp [hflagged]
  · simp [hflagged, discardExact_eq_some, Nat.shiftLeft_eq, pow_succ']

theorem discardGIFSubBlocks_eq_some :
    discardGIFSubBlocks input = some rest ↔ ∃ blocks, SubBlocks blocks ∧
      input = blocks ++ rest := by
  constructor
  · intro h
    fun_induction discardGIFSubBlocks input with
    | case1 | case3 => exact absurd h nofun
    | case2 => exact ⟨[0], .terminator, by rw [Option.some.inj h]; rfl⟩
    | case4 size input hsize after hdiscard ih =>
      obtain ⟨data, hdata, rfl⟩ := discardExact_eq_some.1 hdiscard
      obtain ⟨blocks, hblocks, rfl⟩ := ih h
      exact ⟨_, .block hsize hdata hblocks, by simp⟩
  · rintro ⟨blocks, hblocks, rfl⟩
    induction hblocks with
    | terminator => simp [discardGIFSubBlocks]
    | @block size data blocks hsize hdata hblocks ih =>
      have hdiscard : discardExact size.toNat (data ++ blocks ++ rest) = some (blocks ++ rest) :=
        discardExact_eq_some.2 ⟨data, hdata, by simp⟩
      rw [List.cons_append, List.cons_append, discardGIFSubBlocks, if_neg hsize]
      split <;> simp_all

theorem discardExtension_eq_some : discardExtension input = some rest ↔
    ∃ extension, Extension extension ∧ input = extension ++ rest := by
  simp only [discardExtension, Option.bind_eq_bind, Option.bind_eq_some_iff, Prod.exists,
    readFull_eq_some, discardGIFSubBlocks_eq_some]
  constructor
  · rintro ⟨label, _, ⟨hlabel, rfl⟩, blocks, hblocks, rfl⟩
    obtain ⟨label, rfl⟩ := List.length_eq_one_iff.1 hlabel
    exact ⟨_, ⟨label, blocks, hblocks, rfl⟩, rfl⟩
  · rintro ⟨_, ⟨label, blocks, hblocks, ⟨⟩⟩, rfl⟩
    exact ⟨[label], _, ⟨rfl, rfl⟩, blocks, hblocks, rfl⟩

theorem discardImage_eq_some : discardImage accepted input = some rest ↔
    ∃ image, Image (accepted ·) image ∧ input = image ++ rest := by
  simp only [discardImage, Option.bind_eq_bind, Option.bind_eq_some_iff, Prod.exists,
    readFull_eq_some, discardGIFSubBlocks_eq_some, discardColourTable_eq_some,
    Option.guard_eq_some']
  constructor
  · rintro ⟨descriptor, _, ⟨hlength, rfl⟩, _, hfits, _, ⟨table, htable, rfl⟩, codeSize, _,
      ⟨hcode, rfl⟩, _, ⟨hleast, hmost⟩, blocks, hblocks, rfl⟩
    obtain ⟨codeSize, rfl⟩ := List.length_eq_one_iff.1 hcode
    exact ⟨_, ⟨descriptor, table, codeSize, blocks, hlength, hfits, htable, hleast, hmost, hblocks,
      rfl⟩, by simp⟩
  · rintro ⟨_, ⟨descriptor, table, codeSize, blocks, hlength, hfits, htable, hleast, hmost,
      hblocks, ⟨⟩⟩, rfl⟩
    exact ⟨descriptor, _, ⟨hlength, by simp⟩, (), hfits, _, ⟨table, htable, rfl⟩, [codeSize], _,
      ⟨rfl, rfl⟩, (), ⟨hleast, hmost⟩, blocks, hblocks, rfl⟩

end

/-- The loop of `validateStaticGIF`. At the trailer, the next read finds the end of the
file. -/
def gifBlocks (accepted : Bytes → Bool) (images : Nat) : Bytes → Option Unit
  | [] => none
  | marker :: input =>
    if marker = 0x3b then guard (input = [] ∧ images = 1)
    else if marker = 0x21 then
      match _h : discardExtension input with
      | none => none
      | some rest => gifBlocks accepted images rest
    else if marker = 0x2c ∧ images + 1 ≤ 1 then
      match _h : discardImage accepted input with
      | none => none
      | some rest => gifBlocks accepted (images + 1) rest
    else none
termination_by input => input.length
decreasing_by
  · obtain ⟨extension, -, rfl⟩ := discardExtension_eq_some.1 ‹_›
    simp only [List.length_cons, List.length_append]
    omega
  · obtain ⟨image, -, rfl⟩ := discardImage_eq_some.1 ‹_›
    simp only [List.length_cons, List.length_append]
    omega

def validateStaticGIF (input : Bytes) (maxPixels : Int) : Option Unit := do
  let (header, input) ← readFull 13 input
  guard (header.take 6 = gif87a ∨ header.take 6 = gif89a)
  let canvasWidth := uint16 header 6
  let canvasHeight := uint16 header 8
  guard ¬(canvasWidth < 1 ∨ canvasHeight < 1 ∨ canvasWidth > maxPixels.tdiv canvasHeight)
  let input ← discardColourTable (header.getD 10 0) input
  gifBlocks (imageAccepted canvasWidth canvasHeight maxPixels) 0 input

/-! ### The check recognizes the grammar -/

section

variable {accepted : Bytes → Bool} {images : Nat} {input : Bytes}

theorem gifBlocks_sound (h : gifBlocks accepted images input = some ()) :
    ∃ n blocks, Blocks (accepted ·) n blocks ∧ images + n = 1 ∧ input = blocks ++ [0x3b] := by
  fun_induction gifBlocks accepted images input with
  | case1 | case3 | case5 | case7 => exact absurd h nofun
  | case2 images input =>
    obtain ⟨rfl, rfl⟩ := (Option.guard_eq_some' _).1 h
    exact ⟨0, [], .nil, rfl, rfl⟩
  | case4 images input rest hread _ ih =>
    obtain ⟨extension, hextension, rfl⟩ := discardExtension_eq_some.1 hread
    obtain ⟨n, blocks, hblocks, hone, rfl⟩ := ih h
    exact ⟨n, _, .extension hextension hblocks, hone, by simp⟩
  | case6 images marker input _ _ hmarker rest hread ih =>
    obtain ⟨rfl, -⟩ := hmarker
    obtain ⟨image, himage, rfl⟩ := discardImage_eq_some.1 hread
    obtain ⟨n, blocks, hblocks, hone, rfl⟩ := ih h
    exact ⟨n + 1, _, .image himage hblocks, by omega, by simp⟩

theorem gifBlocks_complete {n : Nat} {blocks : Bytes} (h : Blocks (accepted ·) n blocks)
    (hone : images + n = 1) : gifBlocks accepted images (blocks ++ [0x3b]) = some () := by
  induction h generalizing images with
  | nil => simp [gifBlocks, show images = 1 by omega]
  | @extension n extension blocks hextension _ ih =>
    have hread : discardExtension (extension ++ (blocks ++ [0x3b])) = some (blocks ++ [0x3b]) :=
      discardExtension_eq_some.2 ⟨extension, hextension, rfl⟩
    rw [List.append_assoc, List.cons_append, gifBlocks, if_neg (by decide), if_pos rfl]
    split <;> simp_all
  | @image n image blocks himage _ ih =>
    have hread : discardImage accepted (image ++ (blocks ++ [0x3b])) = some (blocks ++ [0x3b]) :=
      discardImage_eq_some.2 ⟨image, himage, rfl⟩
    rw [List.append_assoc, List.cons_append, gifBlocks, if_neg (by decide), if_neg (by decide),
      if_pos ⟨rfl, by omega⟩]
    have hrest := ih (show images + 1 + n = 1 by omega)
    split <;> simp_all

end

theorem le_tdiv_iff {width height maxPixels : Int} (hwidth : 0 < width) (hheight : 0 < height) :
    width ≤ maxPixels.tdiv height ↔ width * height ≤ maxPixels := by
  have hpixels := Int.mul_pos hwidth hheight
  rcases le_or_gt 0 maxPixels with hmax | hmax
  · rw [Int.tdiv_eq_ediv_of_nonneg hmax, Int.le_ediv_iff_mul_le hheight]
  · have hquotient : 0 ≤ (-maxPixels).tdiv height := Int.tdiv_nonneg (by omega) hheight.le
    rw [Int.neg_tdiv] at hquotient
    omega

theorem imageAccepted_iff {canvasWidth canvasHeight maxPixels : Int} {descriptor : Bytes}
    (hlimit : canvasWidth * canvasHeight ≤ maxPixels) :
    imageAccepted canvasWidth canvasHeight maxPixels descriptor = true ↔
      Inside canvasWidth canvasHeight descriptor := by
  have hleft : 0 ≤ uint16 descriptor 0 := by unfold uint16; omega
  have htop : 0 ≤ uint16 descriptor 2 := by unfold uint16; omega
  simp only [imageAccepted, Bool.not_eq_true', Bool.or_eq_false_iff, decide_eq_false_iff_not,
    not_lt]
  constructor
  · intro h
    exact ⟨by omega, by omega, by omega, by omega⟩
  · rintro ⟨hwidth, hheight, hright, hbottom⟩
    have hpixels : uint16 descriptor 4 * uint16 descriptor 6 ≤ maxPixels :=
      (Int.mul_le_mul (by omega) (by omega) hheight.le (by omega)).trans hlimit
    exact ⟨⟨⟨⟨hwidth, hheight⟩, by omega⟩, by omega⟩, (le_tdiv_iff hwidth hheight).2 hpixels⟩

/-- The check accepts the bytes of the grammar and no others. -/
theorem validateStaticGIF_iff (input : Bytes) (maxPixels : Int) :
    validateStaticGIF input maxPixels = some () ↔ StaticGIF maxPixels input := by
  simp only [validateStaticGIF, StaticGIF, Option.bind_eq_bind, Option.bind_eq_some_iff,
    Prod.exists, readFull_eq_some, discardColourTable_eq_some, Option.guard_eq_some', not_or,
    not_lt]
  constructor
  · rintro ⟨header, _, ⟨hheader, rfl⟩, _, hsignature, _, ⟨hwidth, hheight, hlimit⟩, _,
      ⟨table, htable, rfl⟩, h⟩
    have hpixels := (le_tdiv_iff hwidth hheight).1 hlimit
    obtain ⟨n, blocks, hblocks, hone, rfl⟩ := gifBlocks_sound h
    simp only [imageAccepted_iff hpixels] at hblocks
    rw [Nat.zero_add] at hone
    exact ⟨header, table, blocks, rfl, hheader, hsignature, hwidth, hheight, hpixels, htable,
      hone ▸ hblocks⟩
  · rintro ⟨header, table, blocks, rfl, hheader, hsignature, hwidth, hheight, hpixels, htable,
      hblocks⟩
    refine ⟨header, _, ⟨hheader, rfl⟩, (), hsignature, (), ⟨hwidth, hheight,
      (le_tdiv_iff hwidth hheight).2 hpixels⟩, _, ⟨table, htable, rfl⟩,
      gifBlocks_complete ?_ (Nat.zero_add 1)⟩
    simpa only [imageAccepted_iff hpixels] using hblocks

end MessagingGateway.Media
