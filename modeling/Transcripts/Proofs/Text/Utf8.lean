/-
  Transcripts/Proofs/Text/Utf8.lean
  =================================
  **What is written as UTF-8 is read back.**

  A character is written by one to four bytes.  For each of the four lengths the
  leading byte has the shape of that length, and its bounds on the second byte
  keep out no character: the lower bound cuts off what a shorter sequence writes,
  the upper bound the surrogates and what lies beyond the last code point.

  The line ends of a file are unified when it is read, so a text comes back
  unchanged if it has no carriage return.
-/
import Transcripts.Text.Split
import Transcripts.Text.Utf8

namespace Transcripts.Text

namespace Utf8

/-! ### The bytes of a string -/

/-- The loop behind `ByteArray.toList`, with the number of bytes that are left. -/
theorem toList_loop (bytes : ByteArray) (left : Nat) : ∀ {i : Nat} (front : List UInt8),
    i + left = bytes.size →
      ByteArray.toList.loop bytes i front = front.reverse ++ bytes.data.toList.drop i := by
  induction left with
  | zero =>
    intro i front h
    have hend : bytes.data.toList.length ≤ i := by simpa using Nat.le_of_eq h.symm
    rw [ByteArray.toList.loop, if_neg (by omega), List.drop_eq_nil_of_le hend, List.append_nil]
  | succ left ih =>
    intro i front h
    have hi : i < bytes.size := by omega
    have hhead : bytes.data.toList.drop i = bytes.get! i :: bytes.data.toList.drop (i + 1) := by
      rw [List.drop_eq_getElem_cons (by simpa using hi)]
      simp [ByteArray.get!, hi]
    rw [ByteArray.toList.loop, if_pos hi, ih _ (by omega), hhead, List.reverse_cons,
      List.append_assoc]
    rfl

/-- The bytes of a string are those of its characters. -/
theorem toList_toUTF8 (s : String) : s.toUTF8.toList = s.toList.flatMap String.utf8EncodeChar := by
  have hbytes : s.toUTF8 = (s.toList.flatMap String.utf8EncodeChar).toByteArray := by
    rw [← s.ofList_toList, String.toList_ofList]
    rfl
  rw [hbytes, ByteArray.toList, toList_loop _ _ _ (Nat.zero_add _), List.reverse_nil,
    List.nil_append, List.drop_zero, List.toList_data_toByteArray]

/-! ### The shapes of sequences -/

theorem toNat_ofNat {n : Nat} (h : n < 0x100) : (UInt8.ofNat n).toNat = n :=
  UInt8.toNat_ofNat_of_lt' h

theorem sequenceShape_two {k : Nat} (hlow : 2 ≤ k) (hhigh : k < 0x20) :
    sequenceShape (UInt8.ofNat (k + 0xC0)) = some (1, 0x80, 0xBF) := by
  have hlead := toNat_ofNat (n := k + 0xC0) (by omega)
  rw [sequenceShape, if_pos]
  rw [UInt8.le_iff_toNat_le, UInt8.le_iff_toNat_le, hlead]
  exact ⟨Nat.add_le_add_right hlow 0xC0, Nat.le_of_lt_succ (Nat.add_lt_add_right hhigh 0xC0)⟩

/-- Three bytes, none of which begin an overlong form or a surrogate. -/
theorem sequenceShape_three {k d : Nat} (hk : k < 0x10) (hd : d < 0x40)
    (hlow : k = 0 → 0x20 ≤ d) (hhigh : k = 0xD → d < 0x20) :
    ∃ low high, sequenceShape (UInt8.ofNat (k + 0xE0)) = some (2, low, high) ∧
      low.toNat ≤ d + 0x80 ∧ d + 0x80 ≤ high.toNat := by
  have hlead := toNat_ofNat (n := k + 0xE0) (by omega)
  simp only [sequenceShape, UInt8.le_iff_toNat_le, ← UInt8.toNat_inj, hlead, UInt8.reduceToNat]
  rw [if_neg (by omega)]
  split
  · exact ⟨_, _, rfl, by simp; omega, by simp; omega⟩
  · split
    · exact ⟨_, _, rfl, by simp, by simp; omega⟩
    · rw [if_pos (by omega)]
      exact ⟨_, _, rfl, by simp, by simp; omega⟩

/-- Four bytes, none of which begin an overlong form or lie beyond the last code
    point. -/
theorem sequenceShape_four {k d : Nat} (hk : k ≤ 4) (hd : d < 0x40)
    (hlow : k = 0 → 0x10 ≤ d) (hhigh : k = 4 → d < 0x10) :
    ∃ low high, sequenceShape (UInt8.ofNat (k + 0xF0)) = some (3, low, high) ∧
      low.toNat ≤ d + 0x80 ∧ d + 0x80 ≤ high.toNat := by
  have hlead := toNat_ofNat (n := k + 0xF0) (by omega)
  simp only [sequenceShape, UInt8.le_iff_toNat_le, ← UInt8.toNat_inj, hlead, UInt8.reduceToNat]
  rw [if_neg (by omega), if_neg (by omega), if_neg (by omega), if_neg (by omega)]
  split
  · exact ⟨_, _, rfl, by simp; omega, by simp; omega⟩
  · split
    · exact ⟨_, _, rfl, by simp, by simp; omega⟩
    · rw [if_pos (by omega)]
      exact ⟨_, _, rfl, by simp, by simp; omega⟩

/-! ### One character -/

/-- A byte within bounds continues a character by six bits. -/
theorem continued_byte {missing : Nat} {low high : UInt8} {code good d : Nat} {bs : List UInt8}
    (hd : d < 0x40) (hlow : low.toNat ≤ d + 0x80) (hhigh : d + 0x80 ≤ high.toNat) :
    continued (missing + 1) low high code good (UInt8.ofNat (d + 0x80) :: bs) =
      continued missing 0x80 0xBF (code * 64 + d) (good + 1) bs := by
  have hbyte := toNat_ofNat (n := d + 0x80) (by omega)
  have hwithin : low ≤ UInt8.ofNat (d + 0x80) ∧ UInt8.ofNat (d + 0x80) ≤ high := by
    rw [UInt8.le_iff_toNat_le, UInt8.le_iff_toNat_le, hbyte]
    exact ⟨hlow, hhigh⟩
  rw [continued, if_pos hwithin, hbyte, Nat.add_sub_cancel]

theorem continued_tail {missing code good d : Nat} {bs : List UInt8} (hd : d < 0x40) :
    continued (missing + 1) 0x80 0xBF code good (UInt8.ofNat (d + 0x80) :: bs) =
      continued missing 0x80 0xBF (code * 64 + d) (good + 1) bs := by
  have hhigh : d + 0x80 ≤ 0xBF := by omega
  exact continued_byte hd (Nat.le_add_left _ _) hhigh

/-- A sequence of the shape that its leading byte announces is read as its code. -/
theorem decodeFrom_sequence {position : Nat} {lead low high : UInt8} {missing code : Nat}
    {bs rest : List UInt8} {cs : List Char} (hlead : 0x80 ≤ lead.toNat)
    (hshape : sequenceShape lead = some (missing, low, high))
    (hcode : continued missing low high (lead.toNat % (0x40 >>> missing)) 1 bs = .done code rest)
    (hrest : ∀ position, decodeFrom position rest = .ok cs) :
    decodeFrom position (lead :: bs) = .ok (Char.ofNat code :: cs) := by
  have hnot : ¬ lead < 0x80 := by
    rw [UInt8.lt_iff_toNat_lt]
    exact Nat.not_lt.mpr hlead
  rw [decodeFrom, if_neg hnot]
  split
  · next h => simp [hshape] at h
  · next h =>
    obtain ⟨rfl, rfl, rfl⟩ : _ ∧ _ ∧ _ := by simpa [hshape] using h.symm
    split
    · next h => simp [hcode] at h
    · next h =>
      obtain ⟨rfl, rfl⟩ : _ ∧ _ := by simpa [hcode] using h.symm
      rw [hrest]
      rfl

theorem decodeFrom_one {position v : Nat} {bs : List UInt8} {cs : List Char} (hv : v < 0x80)
    (hrest : ∀ position, decodeFrom position bs = .ok cs) :
    decodeFrom position (UInt8.ofNat v :: bs) = .ok (Char.ofNat v :: cs) := by
  have hbyte := toNat_ofNat (n := v) (by omega)
  have hlt : UInt8.ofNat v < 0x80 := by
    rw [UInt8.lt_iff_toNat_lt, hbyte]
    exact hv
  rw [decodeFrom, if_pos hlt, hbyte, hrest]
  rfl

theorem decodeFrom_two {position k d : Nat} {bs : List UInt8} {cs : List Char} (hlow : 2 ≤ k)
    (hhigh : k < 0x20) (hd : d < 0x40) (hrest : ∀ position, decodeFrom position bs = .ok cs) :
    decodeFrom position (UInt8.ofNat (k + 0xC0) :: UInt8.ofNat (d + 0x80) :: bs) =
      .ok (Char.ofNat (k * 64 + d) :: cs) := by
  have hlead := toNat_ofNat (n := k + 0xC0) (by omega)
  refine decodeFrom_sequence (by omega) (sequenceShape_two hlow hhigh) ?_ hrest
  have hmask : (k + 0xC0) % (0x40 >>> 1) = k := by
    show (k + 0xC0) % 0x20 = k
    omega
  rw [hlead, hmask, continued_tail hd, continued]

theorem decodeFrom_three {position k d e : Nat} {bs : List UInt8} {cs : List Char} (hk : k < 0x10)
    (hd : d < 0x40) (he : e < 0x40) (hlow : k = 0 → 0x20 ≤ d) (hhigh : k = 0xD → d < 0x20)
    (hrest : ∀ position, decodeFrom position bs = .ok cs) :
    decodeFrom position
        (UInt8.ofNat (k + 0xE0) :: UInt8.ofNat (d + 0x80) :: UInt8.ofNat (e + 0x80) :: bs) =
      .ok (Char.ofNat ((k * 64 + d) * 64 + e) :: cs) := by
  have hlead := toNat_ofNat (n := k + 0xE0) (by omega)
  obtain ⟨low, high, hshape, hmin, hmax⟩ := sequenceShape_three hk hd hlow hhigh
  refine decodeFrom_sequence (by omega) hshape ?_ hrest
  have hmask : (k + 0xE0) % (0x40 >>> 2) = k := by
    show (k + 0xE0) % 0x10 = k
    omega
  rw [hlead, hmask, continued_byte hd hmin hmax,
    continued_tail he, continued]

theorem decodeFrom_four {position k d e f : Nat} {bs : List UInt8} {cs : List Char} (hk : k ≤ 4)
    (hd : d < 0x40) (he : e < 0x40) (hf : f < 0x40) (hlow : k = 0 → 0x10 ≤ d)
    (hhigh : k = 4 → d < 0x10) (hrest : ∀ position, decodeFrom position bs = .ok cs) :
    decodeFrom position
        (UInt8.ofNat (k + 0xF0) :: UInt8.ofNat (d + 0x80) :: UInt8.ofNat (e + 0x80) ::
          UInt8.ofNat (f + 0x80) :: bs) =
      .ok (Char.ofNat (((k * 64 + d) * 64 + e) * 64 + f) :: cs) := by
  have hlead := toNat_ofNat (n := k + 0xF0) (by omega)
  obtain ⟨low, high, hshape, hmin, hmax⟩ := sequenceShape_four hk hd hlow hhigh
  refine decodeFrom_sequence (by omega) hshape ?_ hrest
  have hmask : (k + 0xF0) % (0x40 >>> 3) = k := by
    show (k + 0xF0) % 0x08 = k
    omega
  rw [hlead, hmask, continued_byte hd hmin hmax,
    continued_tail he, continued_tail hf, continued]

theorem decodeFrom_encodeChar (c : Char) {bs : List UInt8} {cs : List Char}
    (hrest : ∀ position, decodeFrom position bs = .ok cs) (position : Nat) :
    decodeFrom position (String.utf8EncodeChar c ++ bs) = .ok (c :: cs) := by
  have hvalid : c.val.toNat < 0xD800 ∨ 0xDFFF < c.val.toNat ∧ c.val.toNat < 0x110000 := c.valid
  have hchar : c = Char.ofNat c.val.toNat := (Char.ofNat_toNat c).symm
  rw [String.utf8EncodeChar]
  generalize c.val.toNat = v at hvalid hchar
  subst hchar
  split
  · exact decodeFrom_one (by omega) hrest
  · split
    · have hv : v / 64 % 0x20 * 64 + v % 0x40 = v := by omega
      rw [← congrArg Char.ofNat hv]
      exact decodeFrom_two (by omega) (by omega) (by omega) hrest
    · split
      · have hv : (v / 4096 % 0x10 * 64 + v / 64 % 0x40) * 64 + v % 0x40 = v := by omega
        rw [← congrArg Char.ofNat hv]
        exact decodeFrom_three (by omega) (by omega) (by omega) (by omega) (by omega) hrest
      · have hv : ((v / 262144 % 0x08 * 64 + v / 4096 % 0x40) * 64 + v / 64 % 0x40) * 64 +
            v % 0x40 = v := by omega
        rw [← congrArg Char.ofNat hv]
        exact decodeFrom_four (by omega) (by omega) (by omega) (by omega) (by omega) (by omega)
          hrest

/-- **Reading what was written.**  The bytes of a text are read as the text. -/
theorem decode_toUTF8 (s : String) : decode s.toUTF8.toList = .ok s.toList := by
  have hread : ∀ (cs : List Char) (position : Nat),
      decodeFrom position (cs.flatMap String.utf8EncodeChar) = .ok cs := by
    intro cs
    induction cs with
    | nil => intro position; rw [List.flatMap_nil, decodeFrom]
    | cons c cs ih => exact decodeFrom_encodeChar c ih
  rw [toList_toUTF8]
  exact hread _ 0

end Utf8

/-! ### Line ends -/

/-- Without a carriage return every line end is a line feed already. -/
theorem unifyLineEnds_of_no_return {cs : List Char} (h : '\r' ∉ cs) : unifyLineEnds cs = cs := by
  induction cs with
  | nil => rfl
  | cons c cs ih =>
    have hc : c ≠ '\r' := fun hc => h (hc ▸ List.mem_cons_self)
    rw [unifyLineEnds, ih fun hmem => h (List.mem_cons_of_mem c hmem)]
    all_goals simp [hc]

end Transcripts.Text
