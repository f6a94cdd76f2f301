import Telemetry.Gzip

/-!
# Bodies decompress to what was compressed

A stored block is read as its content, and so is a sequence of them up to the last one
(`readBlocks?_storedBlocks`).  The member that `compress` writes around them has the header, the
checksum and the length that `decompress?` asks for, so it gives the content back
(`decompress?_compress`), however long that is.
-/

namespace Telemetry.Gzip

/-! ### Blocks -/

/-- A number that is too large for its bytes is read up to a multiple of their range. -/
theorem ofLittleEndian_littleEndian_mod (width n : Nat) :
    ofLittleEndian (littleEndian width n) = n % Nat.pow 256 width := by
  induction width generalizing n with
  | zero => exact (Nat.mod_one n).symm
  | succ width ih =>
    rw [littleEndian, ofLittleEndian, ih, UInt8.toNat_ofNat']
    show n % 256 + 256 * (n / 256 % 256 ^ width) = n % 256 ^ (width + 1)
    rw [Nat.pow_succ', Nat.mod_mul]

theorem ofLittleEndian_two {n : Nat} (h : n ≤ maxStored) :
    ∃ a b, littleEndian 2 n = [a, b] ∧ ofLittleEndian [a, b] = n := by
  refine ⟨UInt8.ofNat n, UInt8.ofNat (n / 256), rfl, ?_⟩
  show ofLittleEndian (littleEndian 2 n) = n
  rw [ofLittleEndian_littleEndian_mod]
  exact Nat.mod_eq_of_lt (Nat.lt_succ_of_le h)

/-- **A stored block is read as its content.** -/
theorem readBlocks?_storedBlock (fuel : Nat) (out : Array UInt8) (last : Bool) {content : Bytes}
    (short : content.length ≤ maxStored) (rest : Bytes) :
    readBlocks? (fuel + 1) out ⟨0, storedBlock last content ++ rest⟩
      = if last then some (out ++ content.toArray, ⟨0, rest⟩)
        else readBlocks? fuel (out ++ content.toArray) ⟨0, rest⟩ := by
  obtain ⟨a, b, written, length⟩ := ofLittleEndian_two short
  obtain ⟨c, d, written', complement⟩ :=
    ofLittleEndian_two (Nat.sub_le maxStored content.length)
  have text : storedBlock last content ++ rest
      = (if last then 1 else 0) :: a :: b :: c :: d :: (content ++ rest) := by
    rw [storedBlock, written, written']
    simp only [List.cons_append, List.nil_append]
  have sum : content.length + (maxStored - content.length) = 65535 := Nat.add_sub_of_le short
  have room : ¬ (content ++ rest).length < content.length := by
    rw [List.length_append]
    omega
  -- The first byte says whether the block is the last one, and that it is stored.
  have stored (first : UInt8) : readStored? out ⟨3, first :: a :: b :: c :: d :: (content ++ rest)⟩
      = some (out ++ content.toArray, ⟨0, rest⟩) := by
    unfold readStored?
    simp only [Bits.wholeBytes, Nat.reduceEqDiff, if_false, List.tail_cons]
    rw [length, complement, if_neg (fun h => h sum), if_neg room, List.take_left, List.drop_left]
  have opens (last : Bool) :
      Bits.next? ⟨0, (if last then 1 else 0) :: a :: b :: c :: d :: (content ++ rest)⟩
        = some (if last then 1 else 0,
          ⟨1, (if last then 1 else 0) :: a :: b :: c :: d :: (content ++ rest)⟩) := by
    cases last <;> rfl
  have kind (last : Bool) :
      Bits.number? 2 ⟨1, (if last then 1 else 0) :: a :: b :: c :: d :: (content ++ rest)⟩
        = some (0, ⟨3, (if last then 1 else 0) :: a :: b :: c :: d :: (content ++ rest)⟩) := by
    cases last <;> simp [Bits.number?, Bits.next?]
  rw [text, readBlocks?, opens]
  simp only [Option.bind_eq_bind, Option.bind_some]
  rw [kind]
  simp only [Option.bind_some]
  rw [stored]
  cases last with
  | true => rfl
  | false => rfl

/-- **Stored blocks are read as their content**, if there are enough of them. -/
theorem readBlocks?_storedBlocks {blocks fuel : Nat} (enough : blocks < fuel) (out : Array UInt8)
    {content : Bytes} (fits : content.length ≤ maxStored * (blocks + 1)) (rest : Bytes) :
    readBlocks? fuel out ⟨0, storedBlocks blocks content ++ rest⟩
      = some (out ++ content.toArray, ⟨0, rest⟩) := by
  -- The induction is on the blocks; each but the last takes as much as a block holds.
  induction blocks generalizing fuel out content with
  | zero =>
    obtain ⟨fuel, rfl⟩ := Nat.exists_eq_add_of_lt enough
    have short : content.length ≤ maxStored := fits
    rw [storedBlocks, List.take_of_length_le short]
    exact readBlocks?_storedBlock _ out true short rest
  | succ blocks ih =>
    cases fuel with
    | zero => exact absurd enough (Nat.not_lt_zero _)
    | succ fuel =>
      rw [storedBlocks]
      split
      next short => exact readBlocks?_storedBlock fuel out true short rest
      next long =>
        have full : (content.take maxStored).length ≤ maxStored := List.length_take_le ..
        have less : (content.drop maxStored).length ≤ maxStored * (blocks + 1) := by
          rw [List.length_drop]
          rw [Nat.mul_succ] at fits
          omega
        rw [List.append_assoc, readBlocks?_storedBlock fuel out false full]
        show readBlocks? fuel _ _ = _
        have joined : (content.take maxStored).toArray ++ (content.drop maxStored).toArray
            = content.toArray := by
          simp only [List.append_toArray, List.take_append_drop]
        rw [ih (Nat.lt_of_succ_lt_succ enough) _ less, Array.append_assoc, joined]

theorem length_le_storedBlocks {blocks : Nat} {content : Bytes}
    (fits : content.length ≤ maxStored * (blocks + 1)) :
    content.length < (storedBlocks blocks content).length := by
  induction blocks generalizing content with
  | zero =>
    have short : content.length ≤ maxStored := fits
    rw [storedBlocks, List.take_of_length_le short]
    simp [storedBlock]
    omega
  | succ blocks ih =>
    rw [storedBlocks]
    split
    · simp [storedBlock]
      omega
    next long =>
      have less : (content.drop maxStored).length ≤ maxStored * (blocks + 1) := by
        rw [List.length_drop]
        rw [Nat.mul_succ] at fits
        omega
      have more := ih less
      rw [List.length_drop] at more
      simp [storedBlock]
      omega

/-! ### Members -/

/-- The content of compressed data is followed by what comes after its last block. -/
theorem inflate?_storedBlocks (content rest : Bytes) :
    inflate? (storedBlocks content.length content ++ rest) = some (content, rest) := by
  have fits : content.length ≤ maxStored * (content.length + 1) := by
    rw [maxStored]
    omega
  have enough : content.length
      < 8 * (storedBlocks content.length content ++ rest).length + 1 := by
    have length := length_le_storedBlocks fits
    rw [List.length_append]
    omega
  unfold inflate?
  rw [readBlocks?_storedBlocks enough _ fits rest]
  simp [Bits.wholeBytes]

/-- **What is compressed decompresses to itself.** -/
theorem decompress?_compress (content : Bytes) : decompress? (compress content) = some content := by
  have checked : (checksum content).toNat % Nat.pow 256 4 = (checksum content).toNat :=
    Nat.mod_eq_of_lt (checksum content).toNat_lt
  let trailer := littleEndian 4 (checksum content).toNat ++ littleEndian 4 content.length
  let data := storedBlocks content.length content ++ trailer
  have text : compress content = header ++ data := by
    simp only [compress, data, trailer, List.append_assoc]
  have headed : dropHeader? (header ++ data) = some data := rfl
  have first : trailer.take 4 = littleEndian 4 (checksum content).toNat := by
    rw [List.take_append_of_le_length (by simp), List.take_of_length_le (by simp)]
  have second : trailer.drop 4 = littleEndian 4 content.length := by
    rw [List.drop_append_of_le_length (by simp), List.drop_of_length_le (by simp),
      List.nil_append]
  have member : member? (header ++ data) = some (content, []) := by
    unfold member?
    rw [headed]
    show (inflate? data).bind _ = _
    rw [inflate?_storedBlocks]
    have room : ¬ trailer.length < 8 := by simp [trailer]
    have sum : ¬ ofLittleEndian (trailer.take 4) ≠ (checksum content).toNat := by
      rw [first, ofLittleEndian_littleEndian_mod, checked]
      exact fun h => h rfl
    have size : ¬ ofLittleEndian ((trailer.drop 4).take 4) ≠ content.length % Nat.pow 2 32 := by
      rw [second, List.take_of_length_le (by simp), ofLittleEndian_littleEndian_mod]
      exact fun h => h rfl
    have rest : trailer.drop 8 = [] := List.drop_of_length_le (by simp [trailer])
    simp only [Option.bind_some, if_neg room, if_neg sum, if_neg size, rest]
    rfl
  obtain ⟨fuel, length⟩ : ∃ fuel, (header ++ data).length = fuel + 1 := ⟨_, rfl⟩
  rw [text, decompress?, length]
  show (member? (header ++ data)).bind _ = _
  rw [member]
  show (members? fuel []).bind _ = _
  rw [members?]
  simp

end Telemetry.Gzip
