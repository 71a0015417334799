import Rasterm.Encoder.Writer

/-!
Contract: what the band scan of `emitIndexedFrame` computes.

Owns the scan's result as a function of the scanned pixels alone (`seen`,
`extent`, `maskAt`), and the proof that the scratch vectors hold exactly that,
whatever earlier calls left in them.
-/

set_option autoImplicit false

namespace Rasterm

namespace Scan

/-- The colours met so far, in order of their first pixel. -/
def seen (image : Nat → Nat → Nat) (positions : List (Nat × Nat)) : List Nat :=
  positions.foldl
    (fun colors position =>
      if image position.1 position.2 ∈ colors then colors
      else colors ++ [image position.1 position.2])
    []

/-- First and last column of one colour. -/
def extent (image : Nat → Nat → Nat) (positions : List (Nat × Nat)) (color : Nat) :
    Option (Nat × Nat) :=
  positions.foldl
    (fun found position =>
      if image position.1 position.2 = color then
        match found with
        | none => some (position.1, position.1)
        | some columns => some (min columns.1 position.1, max columns.2 position.1)
      else found)
    none

/-- The rows of one colour in one column, as bits. -/
def maskAt (image : Nat → Nat → Nat) (band : Nat) (positions : List (Nat × Nat))
    (color x : Nat) : Nat :=
  positions.foldl
    (fun mask position =>
      if image position.1 position.2 = color ∧ position.1 = x then
        mask ||| 1 <<< (position.2 - band)
      else mask)
    0

variable {image : Nat → Nat → Nat} {positions : List (Nat × Nat)} {band : Nat}

/-! ### One more pixel -/

theorem seen_snoc (position : Nat × Nat) :
    seen image (positions ++ [position]) =
      if image position.1 position.2 ∈ seen image positions then seen image positions
      else seen image positions ++ [image position.1 position.2] := by
  rw [seen, List.foldl_append]
  rfl

theorem extent_snoc (position : Nat × Nat) (color : Nat) :
    extent image (positions ++ [position]) color =
      if image position.1 position.2 = color then
        match extent image positions color with
        | none => some (position.1, position.1)
        | some columns => some (min columns.1 position.1, max columns.2 position.1)
      else extent image positions color := by
  simp [extent]

theorem maskAt_snoc (position : Nat × Nat) (color x : Nat) :
    maskAt image band (positions ++ [position]) color x =
      if image position.1 position.2 = color ∧ position.1 = x then
        maskAt image band positions color x ||| 1 <<< (position.2 - band)
      else maskAt image band positions color x := by
  simp [maskAt]

/-! ### What the results mean -/

theorem mem_seen {color : Nat} :
    color ∈ seen image positions ↔ ∃ position ∈ positions, image position.1 position.2 = color := by
  induction positions using List.reverseRecOn with
  | nil => simp [seen]
  | append_singleton positions position inductionHypothesis =>
      rw [seen_snoc]
      split_ifs with already
      · rw [inductionHypothesis]
        constructor
        · rintro ⟨earlier, member, isColor⟩
          exact ⟨earlier, by simp [member], isColor⟩
        · rintro ⟨found, member, isColor⟩
          rcases List.mem_append.mp member with earlier | last
          · exact ⟨found, earlier, isColor⟩
          · rw [List.mem_singleton.mp last] at isColor
            rw [← isColor]
            exact inductionHypothesis.mp (isColor ▸ already) |>.imp fun _ found =>
              ⟨found.1, found.2.trans isColor.symm⟩
      · simp only [List.mem_append, List.mem_singleton, inductionHypothesis]
        constructor
        · rintro (⟨earlier, member, isColor⟩ | rfl)
          · exact ⟨earlier, Or.inl member, isColor⟩
          · exact ⟨position, Or.inr rfl, rfl⟩
        · rintro ⟨found, earlier | rfl, isColor⟩
          · exact Or.inl ⟨found, earlier, isColor⟩
          · exact Or.inr isColor.symm

theorem nodup_seen : (seen image positions).Nodup := by
  induction positions using List.reverseRecOn with
  | nil => simp [seen]
  | append_singleton positions position inductionHypothesis =>
      rw [seen_snoc]
      split_ifs with already
      · exact inductionHypothesis
      · rw [List.nodup_append]
        refine ⟨inductionHypothesis, by simp, ?_⟩
        intro earlier member last isLast
        rw [List.mem_singleton.mp isLast]
        rintro rfl
        exact already member

theorem testBit_maskAt {color x row : Nat} :
    (maskAt image band positions color x).testBit row = true ↔
      ∃ position ∈ positions, image position.1 position.2 = color ∧ position.1 = x ∧
        position.2 - band = row := by
  induction positions using List.reverseRecOn with
  | nil => simp [maskAt]
  | append_singleton positions position inductionHypothesis =>
      rw [maskAt_snoc]
      simp only [List.mem_append, List.mem_singleton, or_and_right, exists_or,
        exists_eq_left]
      split_ifs with here
      · rw [Nat.testBit_or, Bool.or_eq_true, inductionHypothesis, Nat.one_shiftLeft,
          Nat.testBit_two_pow, decide_eq_true_eq]
        obtain ⟨isColor, rfl⟩ := here
        simp only [isColor, true_and]
      · rw [inductionHypothesis]
        constructor
        · exact Or.inl
        · rintro (earlier | ⟨isColor, isColumn, -⟩)
          · exact earlier
          · exact absurd ⟨isColor, isColumn⟩ here

theorem maskAt_eq_zero {color : Nat} (unseen : color ∉ seen image positions) (x : Nat) :
    maskAt image band positions color x = 0 := by
  apply Nat.eq_of_testBit_eq
  intro row
  rw [Nat.zero_testBit, Bool.eq_false_iff]
  intro set
  obtain ⟨position, member, isColor, -⟩ := testBit_maskAt.mp set
  exact unseen (mem_seen.mpr ⟨position, member, isColor⟩)

theorem extent_eq_none {color : Nat} (unseen : color ∉ seen image positions) :
    extent image positions color = none := by
  induction positions using List.reverseRecOn with
  | nil => rfl
  | append_singleton positions position inductionHypothesis =>
      have notHere : image position.1 position.2 ≠ color := by
        rintro rfl
        exact unseen (mem_seen.mpr ⟨position, by simp, rfl⟩)
      rw [extent_snoc, if_neg notHere]
      apply inductionHypothesis
      intro earlier
      obtain ⟨found, member, isColor⟩ := mem_seen.mp earlier
      exact unseen (mem_seen.mpr ⟨found, by simp [member], isColor⟩)

/-- A colour that occurs has an extent, and it bounds every pixel of the colour. -/
theorem extent_of_mem {position : Nat × Nat} (member : position ∈ positions) :
    ∃ first last, extent image positions (image position.1 position.2) = some (first, last) ∧
      first ≤ position.1 ∧ position.1 ≤ last := by
  induction positions using List.reverseRecOn with
  | nil => simp at member
  | append_singleton positions latest inductionHypothesis =>
      rw [extent_snoc]
      rcases List.mem_append.mp member with earlier | isLatest
      · obtain ⟨first, last, found, lower, upper⟩ := inductionHypothesis earlier
        rw [found]
        split_ifs
        · exact ⟨_, _, rfl, by omega, by omega⟩
        · exact ⟨first, last, rfl, lower, upper⟩
      · rw [List.mem_singleton.mp isLatest, if_pos rfl]
        cases extent image positions (image latest.1 latest.2) with
        | none => exact ⟨_, _, rfl, le_rfl, le_rfl⟩
        | some columns => exact ⟨_, _, rfl, by omega, by omega⟩

/-- Both bounds of an extent are columns of scanned pixels. -/
theorem extent_attained {color first last : Nat}
    (found : extent image positions color = some (first, last)) :
    (∃ position ∈ positions, position.1 = first) ∧ ∃ position ∈ positions, position.1 = last := by
  induction positions using List.reverseRecOn generalizing first last with
  | nil => simp [extent] at found
  | append_singleton positions latest inductionHypothesis =>
      have widen : ∀ column, (∃ position ∈ positions, position.1 = column) ∨ latest.1 = column →
          ∃ position ∈ positions ++ [latest], position.1 = column := by
        rintro column (⟨position, member, isColumn⟩ | isColumn)
        · exact ⟨position, by simp [member], isColumn⟩
        · exact ⟨latest, by simp, isColumn⟩
      rw [extent_snoc] at found
      split_ifs at found with here
      · cases before : extent image positions color with
        | none =>
            simp only [before, Option.some.injEq, Prod.mk.injEq] at found
            exact ⟨widen first (Or.inr found.1), widen last (Or.inr found.2)⟩
        | some columns =>
            simp only [before, Option.some.injEq, Prod.mk.injEq] at found
            obtain ⟨firstBefore, lastBefore⟩ := inductionHypothesis before
            refine ⟨widen first ?_, widen last ?_⟩
            · rcases min_choice columns.1 latest.1 with kept | taken
              · exact Or.inl (by rw [← found.1, kept]; exact firstBefore)
              · exact Or.inr (by rw [← found.1, taken])
            · rcases max_choice columns.2 latest.1 with kept | taken
              · exact Or.inl (by rw [← found.2, kept]; exact lastBefore)
              · exact Or.inr (by rw [← found.2, taken])
      · obtain ⟨firstBefore, lastBefore⟩ := inductionHypothesis found
        exact ⟨widen first (Or.inl firstBefore), widen last (Or.inl lastBefore)⟩

/-- A scan reads the scanned pixels only. -/
theorem congr {left right : Nat → Nat → Nat}
    (same : ∀ position ∈ positions, left position.1 position.2 = right position.1 position.2)
    (color x : Nat) :
    seen left positions = seen right positions ∧
      extent left positions color = extent right positions color ∧
      maskAt left band positions color x = maskAt right band positions color x := by
  refine ⟨?_, ?_, ?_⟩
  · apply List.foldl_ext
    intro colors position member
    rw [same position member]
  · apply List.foldl_ext
    intro found position member
    rw [same position member]
  · apply List.foldl_ext
    intro mask position member
    rw [same position member]

end Scan

/-! ### The scratch vectors hold the scan -/

/-- What the scratch vectors hold after scanning `positions` of a band. -/
structure Scanned (image : Nat → Nat → Nat) (width band colorCount : Nat)
    (positions : List (Nat × Nat)) (scratch : Scratch) : Prop where
  colors : scratch.colorsInBand = Scan.seen image positions
  slot_seen : ∀ color ∈ Scan.seen image positions,
    scratch.colorSlot color = (Scan.seen image positions).idxOf color
  slot_unseen : ∀ color < colorCount, color ∉ Scan.seen image positions →
    scratch.colorSlot color < 0
  columns : ∀ color ∈ Scan.seen image positions,
    Scan.extent image positions color = some (scratch.firstColumn color, scratch.lastColumn color)
  masks : ∀ color ∈ Scan.seen image positions, ∀ x < width,
    scratch.bandMasks ((Scan.seen image positions).idxOf color * width + x) =
      Scan.maskAt image band positions color x

/-- Cells of different slots are different. -/
private theorem cell_inj {width leftSlot rightSlot left right : Nat} (leftInside : left < width)
    (rightInside : right < width) (same : leftSlot * width + left = rightSlot * width + right) :
    leftSlot = rightSlot ∧ left = right := by
  have positive : 0 < width := by omega
  have quotients := congrArg (· / width) same
  have remainders := congrArg (· % width) same
  simp only [Nat.mul_comm _ width, Nat.mul_add_div positive, Nat.mul_add_mod,
    Nat.div_eq_of_lt leftInside, Nat.div_eq_of_lt rightInside, Nat.mod_eq_of_lt leftInside,
    Nat.mod_eq_of_lt rightInside, Nat.add_zero] at quotients remainders
  exact ⟨quotients, remainders⟩

section Step

variable {image : Nat → Nat → Nat} {width band colorCount : Nat} {positions : List (Nat × Nat)}
  {scratch : Scratch}

theorem Scanned.nil (scratch : Scratch) :
    Scanned image width band colorCount [] (scratch.beginBand colorCount) where
  colors := rfl
  slot_seen := by simp [Scan.seen]
  slot_unseen := by
    intro color inRange _
    simp [Scratch.beginBand, inRange]
  columns := by simp [Scan.seen]
  masks := by simp [Scan.seen]

/-- The first pixel of a colour: a fresh slot with an empty mask, then one bit. -/
private theorem Scanned.new_color (scanned : Scanned image width band colorCount positions scratch)
    {position : Nat × Nat} (columnInside : position.1 < width)
    (colorInside : image position.1 position.2 < colorCount)
    (unseen : image position.1 position.2 ∉ Scan.seen image positions) :
    Scanned image width band colorCount (positions ++ [position])
      (scratch.scanPixel image width band position) := by
  have noSlot := scanned.slot_unseen _ colorInside unseen
  have seenNow : Scan.seen image (positions ++ [position]) =
      Scan.seen image positions ++ [image position.1 position.2] := by
    rw [Scan.seen_snoc, if_neg unseen]
  have ownSlot : (Scan.seen image (positions ++ [position])).idxOf (image position.1 position.2) =
      (Scan.seen image positions).length := by
    rw [seenNow, List.idxOf_append_of_notMem unseen]
    simp
  have oldSlot : ∀ color ∈ Scan.seen image positions,
      (Scan.seen image (positions ++ [position])).idxOf color =
        (Scan.seen image positions).idxOf color := by
    intro color member
    rw [seenNow, List.idxOf_append_of_mem member]
  have different : ∀ color ∈ Scan.seen image positions, color ≠ image position.1 position.2 := by
    rintro color member rfl
    exact unseen member
  have scan : scratch.scanPixel image width band position =
      { bandMasks := Function.update
          (fun index =>
            if (Scan.seen image positions).length * width ≤ index ∧
                index < (Scan.seen image positions).length * width + width then 0
            else scratch.bandMasks index)
          ((Scan.seen image positions).length * width + position.1)
          (1 <<< (position.2 - band))
        colorsInBand := Scan.seen image positions ++ [image position.1 position.2]
        colorSlot := Function.update scratch.colorSlot (image position.1 position.2)
          (Scan.seen image positions).length
        firstColumn := Function.update scratch.firstColumn (image position.1 position.2) position.1
        lastColumn :=
          Function.update scratch.lastColumn (image position.1 position.2) position.1 } := by
    simp only [Scratch.scanPixel, Scratch.enter, if_pos noSlot, Scratch.mark,
      Function.update_self, Int.toNat_natCast, scanned.colors]
    rw [if_pos ⟨by omega, by omega⟩, Nat.zero_or]
  rw [scan]
  refine ⟨seenNow.symm, ?_, ?_, ?_, ?_⟩
  · intro color member
    rw [seenNow] at member
    rcases List.mem_append.mp member with earlier | isNew
    · rw [oldSlot color earlier]
      simpa [Function.update_of_ne (different color earlier)] using
        scanned.slot_seen color earlier
    · rw [List.mem_singleton.mp isNew, ownSlot]
      simp
  · intro color inRange stillUnseen
    rw [seenNow] at stillUnseen
    simp only [List.mem_append, List.mem_singleton, not_or] at stillUnseen
    simpa [Function.update_of_ne stillUnseen.2] using
      scanned.slot_unseen color inRange stillUnseen.1
  · intro color member
    rw [seenNow] at member
    rw [Scan.extent_snoc]
    rcases List.mem_append.mp member with earlier | isNew
    · rw [if_neg fun same => different color earlier same.symm]
      simpa [Function.update_of_ne (different color earlier)] using scanned.columns color earlier
    · rw [List.mem_singleton.mp isNew, if_pos rfl, Scan.extent_eq_none unseen]
      simp
  · intro color member x inside
    rw [seenNow] at member
    rw [Scan.maskAt_snoc]
    dsimp only
    rcases List.mem_append.mp member with earlier | isNew
    · have slotBelow := List.idxOf_lt_length_of_mem earlier
      have outside : (Scan.seen image positions).idxOf color * width + x <
          (Scan.seen image positions).length * width := by
        calc (Scan.seen image positions).idxOf color * width + x
            < ((Scan.seen image positions).idxOf color + 1) * width := by
              rw [Nat.add_mul]
              omega
          _ ≤ (Scan.seen image positions).length * width := Nat.mul_le_mul_right _ slotBelow
      rw [oldSlot color earlier, if_neg fun same => different color earlier same.1.symm,
        Function.update_of_ne (by omega), if_neg (by omega)]
      exact scanned.masks color earlier x inside
    · rw [List.mem_singleton.mp isNew, ownSlot, Scan.maskAt_eq_zero unseen, Nat.zero_or]
      by_cases here : position.1 = x
      · subst here
        simp
      · rw [Function.update_of_ne (by omega), if_pos ⟨by omega, by omega⟩, if_neg (by simp [here])]

/-- A further pixel of a known colour: the extent widens and one bit is set. -/
private theorem Scanned.old_color (scanned : Scanned image width band colorCount positions scratch)
    {position : Nat × Nat} (columnInside : position.1 < width)
    (already : image position.1 position.2 ∈ Scan.seen image positions) :
    Scanned image width band colorCount (positions ++ [position])
      (scratch.scanPixel image width band position) := by
  have slot := scanned.slot_seen _ already
  have seenNow : Scan.seen image (positions ++ [position]) = Scan.seen image positions := by
    rw [Scan.seen_snoc, if_pos already]
  have extentBefore := scanned.columns _ already
  have scan : scratch.scanPixel image width band position =
      { scratch with
        bandMasks := Function.update scratch.bandMasks
          ((Scan.seen image positions).idxOf (image position.1 position.2) * width + position.1)
          (Scan.maskAt image band positions (image position.1 position.2) position.1 |||
            1 <<< (position.2 - band))
        firstColumn := Function.update scratch.firstColumn (image position.1 position.2)
          (min (scratch.firstColumn (image position.1 position.2)) position.1)
        lastColumn := Function.update scratch.lastColumn (image position.1 position.2)
          (max (scratch.lastColumn (image position.1 position.2)) position.1) } := by
    have hasSlot : ¬ scratch.colorSlot (image position.1 position.2) < 0 := by
      rw [slot]
      omega
    simp only [Scratch.scanPixel, Scratch.enter, if_neg hasSlot]
    simp only [Scratch.mark, slot, Int.toNat_natCast, scanned.masks _ already _ columnInside]
  rw [scan]
  refine ⟨by rw [seenNow]; exact scanned.colors, ?_, ?_, ?_, ?_⟩
  · rw [seenNow]
    exact scanned.slot_seen
  · rw [seenNow]
    exact scanned.slot_unseen
  · intro color member
    rw [seenNow] at member
    rw [Scan.extent_snoc]
    split_ifs with here
    · subst here
      simp [extentBefore]
    · simpa [Function.update_of_ne (Ne.symm here)] using scanned.columns color member
  · intro color member x inside
    rw [seenNow] at member ⊢
    rw [Scan.maskAt_snoc]
    split_ifs with here
    · obtain ⟨rfl, rfl⟩ := here
      simp
    · have otherCell : (Scan.seen image positions).idxOf color * width + x ≠
          (Scan.seen image positions).idxOf (image position.1 position.2) * width +
            position.1 := by
        intro same
        obtain ⟨sameSlot, sameColumn⟩ := cell_inj inside columnInside same
        refine here ⟨?_, sameColumn.symm⟩
        exact ((List.idxOf_inj member).mp sameSlot).symm
      simpa [Function.update_of_ne otherCell] using scanned.masks color member x inside

/-- One more pixel. -/
theorem Scanned.snoc (scanned : Scanned image width band colorCount positions scratch)
    {position : Nat × Nat} (columnInside : position.1 < width)
    (colorInside : image position.1 position.2 < colorCount) :
    Scanned image width band colorCount (positions ++ [position])
      (scratch.scanPixel image width band position) := by
  by_cases already : image position.1 position.2 ∈ Scan.seen image positions
  · exact scanned.old_color columnInside already
  · exact scanned.new_color columnInside colorInside already

end Step

theorem mem_bandPositions {width height band x y : Nat} :
    (x, y) ∈ bandPositions width height band ↔
      x < width ∧ band ≤ y ∧ y < band + 6 ∧ y < height := by
  simp only [bandPositions, List.mem_flatMap, List.mem_range, List.mem_map, Prod.mk.injEq]
  constructor
  · rintro ⟨row, rowInside, column, columnInside, rfl, rfl⟩
    omega
  · rintro ⟨columnInside, lower, upper, inside⟩
    exact ⟨y - band, by omega, x, columnInside, rfl, by omega⟩

/-- After scanning a band the scratch vectors hold its colours, extents and masks. -/
theorem scanned_scanBand {image : Nat → Nat → Nat} {width height colorCount band : Nat}
    (inRange : ∀ x < width, ∀ y < height, image x y < colorCount) (scratch : Scratch) :
    Scanned image width band colorCount (bandPositions width height band)
      (scanBand image width height colorCount band scratch) := by
  have inside : ∀ position ∈ bandPositions width height band,
      position.1 < width ∧ image position.1 position.2 < colorCount := by
    rintro ⟨x, y⟩ member
    obtain ⟨columnInside, -, -, rowInside⟩ := mem_bandPositions.mp member
    exact ⟨columnInside, inRange x columnInside y rowInside⟩
  unfold scanBand
  generalize bandPositions width height band = positions at inside ⊢
  induction positions using List.reverseRecOn with
  | nil => exact Scanned.nil scratch
  | append_singleton positions position inductionHypothesis =>
      rw [List.foldl_append]
      obtain ⟨columnInside, colorInside⟩ := inside position (by simp)
      apply Scanned.snoc _ columnInside colorInside
      exact inductionHypothesis fun earlier member => inside earlier (by simp [member])

end Rasterm
