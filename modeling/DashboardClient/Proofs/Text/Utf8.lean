import DashboardClient.Proofs.PartialMaps
import DashboardClient.Text.Utf8

/-!
# What is UTF-8

Strict reading undoes writing: the bytes that can be read are those of a text, and they are read as
that text. The first byte of a sequence says how many follow and where the second one lies, which is
what keeps longer spellings, surrogates and numbers beyond the last character out.
-/

namespace DashboardClient.Text

open Utf8Sequence

variable {b : UInt8} {bs rest : List UInt8} {s : Utf8Sequence} {v : Nat}

-- ---------------------------------------------------------------------------
-- Sequences
-- ---------------------------------------------------------------------------

/-- The first bytes by their numbers, and the sequences that they start. -/
inductive Leads (n : Nat) : Utf8Sequence → Prop where
  | two (low : 0xC2 ≤ n) (high : n ≤ 0xDF) : Leads n ⟨n - 0xC0, 1, 0x80, 0xBF⟩
  | threeFirst (first : n = 0xE0) : Leads n ⟨0, 2, 0xA0, 0xBF⟩
  | three (low : 0xE1 ≤ n) (high : n ≤ 0xEF) (inner : n ≠ 0xED) :
    Leads n ⟨n - 0xE0, 2, 0x80, 0xBF⟩
  | threeSurrogate (surrogate : n = 0xED) : Leads n ⟨n - 0xE0, 2, 0x80, 0x9F⟩
  | fourFirst (first : n = 0xF0) : Leads n ⟨0, 3, 0x90, 0xBF⟩
  | four (low : 0xF1 ≤ n) (high : n ≤ 0xF3) : Leads n ⟨n - 0xF0, 3, 0x80, 0xBF⟩
  | fourLast (last : n = 0xF4) : Leads n ⟨4, 3, 0x80, 0x8F⟩

/-- The bytes end a sequence, and these are the bits of all of it. -/
inductive Ends : Utf8Sequence → List UInt8 → Nat → Prop where
  | last {s : Utf8Sequence} {b : UInt8} (low : s.low.toNat ≤ b.toNat)
    (high : b.toNat ≤ s.high.toNat) (last : s.missing ≤ 1) :
    Ends s [b] (s.bits * 64 + (b.toNat - 0x80))
  | more {s : Utf8Sequence} {b : UInt8} {bs : List UInt8} {v : Nat} (low : s.low.toNat ≤ b.toNat)
    (high : b.toNat ≤ s.high.toNat) (more : ¬s.missing ≤ 1)
    (ends : Ends ⟨s.bits * 64 + (b.toNat - 0x80), s.missing - 1, 0x80, 0xBF⟩ bs v) :
    Ends s (b :: bs) v

/-- The bytes are one whole sequence with these bits. -/
inductive IsSequence : List UInt8 → Nat → Prop where
  | ascii {b : UInt8} (ascii : b.toNat < 0x80) : IsSequence [b] b.toNat
  | long {b : UInt8} {s : Utf8Sequence} {bs : List UInt8} {v : Nat} (leads : Leads b.toNat s)
    (ends : Ends s bs v) : IsSequence (b :: bs) v


-- ---------------------------------------------------------------------------
-- Reading
-- ---------------------------------------------------------------------------

theorem start_of_leads (h : Leads b.toNat s) : start b = ([], some s) := by
  unfold start
  generalize b.toNat = n at h
  cases h with
  | two | three | four => grind
  | _ => subst_vars; rfl

theorem start_of_not_leads (ascii : ¬b.toNat < 0x80) (h : ∀ s, ¬Leads b.toNat s) :
    start b = ([none], none) := by
  unfold start
  generalize b.toNat = n at h ascii
  have h2 := fun low high => h _ (.two low high)
  have h3 := fun first => h _ (.threeFirst first)
  have h4 := fun low high inner => h _ (.three low high inner)
  have h5 := fun surrogate => h _ (.threeSurrogate surrogate)
  have h6 := fun first => h _ (.fourFirst first)
  have h7 := fun low high => h _ (.four low high)
  have h8 := fun last => h _ (.fourLast last)
  grind

theorem utf8ItemsFrom_ends (h : Ends s bs v) (rest : List UInt8) :
    utf8ItemsFrom (some s) (bs ++ rest) = some (Char.ofNat v) :: utf8ItemsFrom none rest := by
  induction h with
  | last low high last =>
    rw [← UInt8.le_iff_toNat_le] at low high
    simp [utf8ItemsFrom, Utf8Sequence.next, low, high, last]
  | more low high more ends ih =>
    rw [← UInt8.le_iff_toNat_le] at low high
    simp only [List.cons_append, utf8ItemsFrom, Utf8Sequence.next, low, high, decide_true,
      Bool.and_self, if_true, more, if_false, List.nil_append]
    exact ih

theorem utf8ItemsFrom_sequence (h : IsSequence bs v) (rest : List UInt8) :
    utf8ItemsFrom none (bs ++ rest) = some (Char.ofNat v) :: utf8ItemsFrom none rest := by
  cases h with
  | ascii ascii => simp [utf8ItemsFrom, Utf8Sequence.next, start, ascii]
  | long leads ends =>
    simp only [List.cons_append, utf8ItemsFrom, Utf8Sequence.next, start_of_leads leads,
      List.nil_append]
    exact utf8ItemsFrom_ends ends rest

/-- Where there is no gap, the open sequence comes to its end. -/
theorem exists_ends (whole : none ∉ utf8ItemsFrom (some s) bs) :
    ∃ front rest v, bs = front ++ rest ∧ Ends s front v := by
  induction bs generalizing s with
  | nil => simp [utf8ItemsFrom] at whole
  | cons b bs ih =>
    by_cases hbounds : s.low ≤ b ∧ b ≤ s.high
    · obtain ⟨low, high⟩ := hbounds
      have hlow := UInt8.le_iff_toNat_le.1 low
      have hhigh := UInt8.le_iff_toNat_le.1 high
      by_cases last : s.missing ≤ 1
      · exact ⟨[b], bs, _, rfl, .last hlow hhigh last⟩
      · simp only [utf8ItemsFrom, Utf8Sequence.next, low, high, decide_true, Bool.and_self, if_true,
          last, if_false, List.nil_append] at whole
        obtain ⟨front, rest, v, rfl, ends⟩ := ih whole
        exact ⟨b :: front, rest, v, rfl, .more hlow hhigh last ends⟩
    · simp [utf8ItemsFrom, Utf8Sequence.next, hbounds] at whole

/-- Where there is no gap, a whole sequence stands in front. -/
theorem exists_sequence (nonempty : bs ≠ []) (whole : none ∉ utf8ItemsFrom none bs) :
    ∃ front rest v, bs = front ++ rest ∧ IsSequence front v := by
  obtain ⟨b, bs, rfl⟩ := List.exists_cons_of_ne_nil nonempty
  by_cases ascii : b.toNat < 0x80
  · exact ⟨[b], bs, _, rfl, .ascii ascii⟩
  · by_cases hleads : ∃ s, Leads b.toNat s
    · obtain ⟨s, leads⟩ := hleads
      simp only [utf8ItemsFrom, Utf8Sequence.next, start_of_leads leads, List.nil_append] at whole
      obtain ⟨front, rest, v, rfl, ends⟩ := exists_ends whole
      exact ⟨b :: front, rest, v, rfl, .long leads ends⟩
    · simp [utf8ItemsFrom, Utf8Sequence.next,
        start_of_not_leads ascii (not_exists.1 hleads)] at whole


-- ---------------------------------------------------------------------------
-- Writing
-- ---------------------------------------------------------------------------

section Bytes

variable {b₀ b₁ b₂ b₃ : UInt8}

/-- A byte that carries six more bits lies within the usual bounds. -/
theorem continues (h : b.toNat = v % 64 + 0x80) :
    (0x80 : UInt8).toNat ≤ b.toNat ∧ b.toNat ≤ (0xBF : UInt8).toNat := by
  simp only [UInt8.reduceToNat]
  omega

theorem isSequence_two (h₀ : b₀.toNat = v / 64 + 0xC0) (h₁ : b₁.toNat = v % 64 + 0x80)
    (low : 0x80 ≤ v) (high : v ≤ 0x7FF) : IsSequence [b₀, b₁] v := by
  have leads := Leads.two (n := b₀.toNat) (by omega) (by omega)
  have ends : Ends ⟨b₀.toNat - 0xC0, 1, 0x80, 0xBF⟩ [b₁] v := by
    have value : (b₀.toNat - 0xC0) * 64 + (b₁.toNat - 0x80) = v := by omega
    exact value ▸ .last (continues h₁).1 (continues h₁).2 (Nat.le_refl 1)
  exact .long leads ends

/-- Two more bytes end a sequence that the second one keeps within its bounds. -/
theorem ends_two {bits : Nat} {low high : UInt8} (h₁ : b₁.toNat = v / 64 % 64 + 0x80)
    (h₂ : b₂.toNat = v % 64 + 0x80) (hbits : bits = v / 4096) (hlow : low.toNat ≤ b₁.toNat)
    (hhigh : b₁.toNat ≤ high.toNat) : Ends ⟨bits, 2, low, high⟩ [b₁, b₂] v := by
  refine .more hlow hhigh (by simp) ?_
  have value : (bits * 64 + (b₁.toNat - 0x80)) * 64 + (b₂.toNat - 0x80) = v := by omega
  exact value ▸ .last (continues h₂).1 (continues h₂).2 (Nat.le_refl 1)

theorem isSequence_three (h₀ : b₀.toNat = v / 4096 + 0xE0) (h₁ : b₁.toNat = v / 64 % 64 + 0x80)
    (h₂ : b₂.toNat = v % 64 + 0x80) (low : 0x800 ≤ v) (high : v ≤ 0xFFFF)
    (valid : v < 0xD800 ∨ 0xDFFF < v) : IsSequence [b₀, b₁, b₂] v := by
  obtain ⟨hlow, hhigh⟩ := continues h₁
  by_cases first : b₀.toNat = 0xE0
  · have hlong : (0xA0 : UInt8).toNat ≤ b₁.toNat := by simp only [UInt8.reduceToNat]; omega
    exact .long (.threeFirst first) (ends_two h₁ h₂ (by omega) hlong hhigh)
  · by_cases surrogate : b₀.toNat = 0xED
    · have hvalid : b₁.toNat ≤ (0x9F : UInt8).toNat := by simp only [UInt8.reduceToNat]; omega
      exact .long (.threeSurrogate surrogate) (ends_two h₁ h₂ (by omega) hlow hvalid)
    · exact .long (.three (by omega) (by omega) surrogate)
        (ends_two h₁ h₂ (by omega) hlow hhigh)

theorem ends_three {bits : Nat} {low high : UInt8} (h₁ : b₁.toNat = v / 4096 % 64 + 0x80)
    (h₂ : b₂.toNat = v / 64 % 64 + 0x80) (h₃ : b₃.toNat = v % 64 + 0x80)
    (hbits : bits = v / 262144) (hlow : low.toNat ≤ b₁.toNat) (hhigh : b₁.toNat ≤ high.toNat) :
    Ends ⟨bits, 3, low, high⟩ [b₁, b₂, b₃] v := by
  have value : bits * 64 + (b₁.toNat - 0x80) = v / 4096 := by omega
  exact .more hlow hhigh (by simp) (ends_two h₂ h₃ value (continues h₂).1 (continues h₂).2)

theorem isSequence_four (h₀ : b₀.toNat = v / 262144 + 0xF0)
    (h₁ : b₁.toNat = v / 4096 % 64 + 0x80) (h₂ : b₂.toNat = v / 64 % 64 + 0x80)
    (h₃ : b₃.toNat = v % 64 + 0x80) (low : 0x10000 ≤ v) (high : v < 0x110000) :
    IsSequence [b₀, b₁, b₂, b₃] v := by
  obtain ⟨hlow, hhigh⟩ := continues h₁
  by_cases first : b₀.toNat = 0xF0
  · have hlong : (0x90 : UInt8).toNat ≤ b₁.toNat := by simp only [UInt8.reduceToNat]; omega
    exact .long (.fourFirst first) (ends_three h₁ h₂ h₃ (by omega) hlong hhigh)
  · by_cases last : b₀.toNat = 0xF4
    · have hvalid : b₁.toNat ≤ (0x8F : UInt8).toNat := by simp only [UInt8.reduceToNat]; omega
      exact .long (.fourLast last) (ends_three h₁ h₂ h₃ (by omega) hlow hvalid)
    · exact .long (.four (by omega) (by omega)) (ends_three h₁ h₂ h₃ (by omega) hlow hhigh)

end Bytes

/-- A character is written as a sequence with its own bits. -/
theorem isSequence_encode (c : Char) : IsSequence (String.utf8EncodeChar c) c.toNat := by
  have hvalid : c.toNat < 0xD800 ∨ 0xDFFF < c.toNat ∧ c.toNat < 0x110000 := c.valid
  have hbyte {n m : Nat} (h : n = m) (byte : m < 256) : (UInt8.ofNat n).toNat = m := by
    rw [UInt8.toNat_ofNat', h]
    exact Nat.mod_eq_of_lt byte
  rw [String.utf8EncodeChar, Char.toNat_val]
  generalize c.toNat = v at hvalid
  split
  · have hv := hbyte (rfl : v = v) (by omega)
    have hascii := IsSequence.ascii (b := UInt8.ofNat v) (by omega)
    rwa [hv] at hascii
  · split
    · exact isSequence_two (hbyte (by omega) (by omega)) (hbyte rfl (by omega)) (by omega)
        (by omega)
    · split
      · exact isSequence_three (hbyte (by omega) (by omega)) (hbyte rfl (by omega))
          (hbyte rfl (by omega)) (by omega) (by omega) (by omega)
      · exact isSequence_four (hbyte (by omega) (by omega)) (hbyte rfl (by omega))
          (hbyte rfl (by omega)) (hbyte rfl (by omega)) (by omega) (by omega)

section Inversion

variable {bits : Nat} {low high : UInt8}

theorem Ends.one (h : Ends ⟨bits, 1, low, high⟩ bs v) :
    ∃ b, bs = [b] ∧ (low.toNat ≤ b.toNat ∧ b.toNat ≤ high.toNat) ∧
      v = bits * 64 + (b.toNat - 0x80) := by
  cases h with
  | last hlow hhigh => exact ⟨_, rfl, ⟨hlow, hhigh⟩, rfl⟩
  | more _ _ more => exact absurd (Nat.le_refl 1) more

theorem Ends.two (h : Ends ⟨bits, 2, low, high⟩ bs v) :
    ∃ b₁ b₂, bs = [b₁, b₂] ∧ (low.toNat ≤ b₁.toNat ∧ b₁.toNat ≤ high.toNat) ∧
      (0x80 ≤ b₂.toNat ∧ b₂.toNat ≤ 0xBF) ∧
      v = (bits * 64 + (b₁.toNat - 0x80)) * 64 + (b₂.toNat - 0x80) := by
  cases h with
  | last _ _ last => simp at last
  | more hlow hhigh _ ends =>
    obtain ⟨b₂, rfl, h₂, hv⟩ := ends.one
    exact ⟨_, b₂, rfl, ⟨hlow, hhigh⟩, h₂, hv⟩

theorem Ends.three (h : Ends ⟨bits, 3, low, high⟩ bs v) :
    ∃ b₁ b₂ b₃, bs = [b₁, b₂, b₃] ∧ (low.toNat ≤ b₁.toNat ∧ b₁.toNat ≤ high.toNat) ∧
      (0x80 ≤ b₂.toNat ∧ b₂.toNat ≤ 0xBF) ∧ (0x80 ≤ b₃.toNat ∧ b₃.toNat ≤ 0xBF) ∧
      v = ((bits * 64 + (b₁.toNat - 0x80)) * 64 + (b₂.toNat - 0x80)) * 64 + (b₃.toNat - 0x80) := by
  cases h with
  | last _ _ last => simp at last
  | more hlow hhigh _ ends =>
    obtain ⟨b₂, b₃, rfl, h₂, h₃, hv⟩ := ends.two
    exact ⟨_, b₂, b₃, rfl, ⟨hlow, hhigh⟩, h₂, h₃, hv⟩

end Inversion

theorem toNat_val_ofNat (valid : v < 0xD800 ∨ 0xDFFF < v ∧ v < 0x110000) :
    (Char.ofNat v).val.toNat = v := by
  have hvalid : v.isValidChar := valid
  rw [Char.ofNat, dif_pos hvalid]
  rfl

theorem ofNat_eq_of_toNat {n : Nat} (h : n = b.toNat) : UInt8.ofNat n = b := by
  rw [h, UInt8.ofNat_toNat]

section Bytes

variable {b₀ b₁ b₂ b₃ : UInt8}

theorem encode_two (h₀ : b₀.toNat = v / 64 + 0xC0) (h₁ : b₁.toNat = v % 64 + 0x80)
    (low : 0x80 ≤ v) (high : v ≤ 0x7FF) : String.utf8EncodeChar (Char.ofNat v) = [b₀, b₁] := by
  have hlead : UInt8.ofNat (v / 64 % 32 + 0xC0) = b₀ := ofNat_eq_of_toNat (by omega)
  rw [String.utf8EncodeChar, toNat_val_ofNat (by omega), if_neg (by omega), if_pos high, hlead,
    ofNat_eq_of_toNat h₁.symm]

theorem encode_three (h₀ : b₀.toNat = v / 4096 + 0xE0) (h₁ : b₁.toNat = v / 64 % 64 + 0x80)
    (h₂ : b₂.toNat = v % 64 + 0x80) (low : 0x800 ≤ v) (high : v ≤ 0xFFFF)
    (valid : v < 0xD800 ∨ 0xDFFF < v) :
    String.utf8EncodeChar (Char.ofNat v) = [b₀, b₁, b₂] := by
  have hlead : UInt8.ofNat (v / 4096 % 16 + 0xE0) = b₀ := ofNat_eq_of_toNat (by omega)
  rw [String.utf8EncodeChar, toNat_val_ofNat (by omega), if_neg (by omega), if_neg (by omega),
    if_pos high, hlead, ofNat_eq_of_toNat h₁.symm, ofNat_eq_of_toNat h₂.symm]

theorem encode_four (h₀ : b₀.toNat = v / 262144 + 0xF0)
    (h₁ : b₁.toNat = v / 4096 % 64 + 0x80) (h₂ : b₂.toNat = v / 64 % 64 + 0x80)
    (h₃ : b₃.toNat = v % 64 + 0x80) (low : 0x10000 ≤ v) (high : v < 0x110000) :
    String.utf8EncodeChar (Char.ofNat v) = [b₀, b₁, b₂, b₃] := by
  have hlead : UInt8.ofNat (v / 262144 % 8 + 0xF0) = b₀ := ofNat_eq_of_toNat (by omega)
  rw [String.utf8EncodeChar, toNat_val_ofNat (by omega), if_neg (by omega), if_neg (by omega),
    if_neg (by omega), hlead, ofNat_eq_of_toNat h₁.symm, ofNat_eq_of_toNat h₂.symm,
    ofNat_eq_of_toNat h₃.symm]

end Bytes

/-- A sequence is how a character is written. -/
theorem IsSequence.encode_eq (h : IsSequence bs v) :
    String.utf8EncodeChar (Char.ofNat v) = bs := by
  cases h with
  | ascii ascii =>
    rw [String.utf8EncodeChar, toNat_val_ofNat (by omega), if_pos (by omega), ofNat_eq_of_toNat rfl]
  | long leads ends =>
    cases leads with
    | two low high =>
      obtain ⟨b₁, rfl, h₁, hv⟩ := ends.one
      simp only [UInt8.reduceToNat] at h₁
      exact encode_two (by omega) (by omega) (by omega) (by omega)
    | threeFirst | three | threeSurrogate =>
      obtain ⟨b₁, b₂, rfl, h₁, h₂, hv⟩ := ends.two
      simp only [UInt8.reduceToNat] at h₁
      exact encode_three (by omega) (by omega) (by omega) (by omega) (by omega) (by omega)
    | fourFirst | four | fourLast =>
      obtain ⟨b₁, b₂, b₃, rfl, h₁, h₂, h₃, hv⟩ := ends.three
      simp only [UInt8.reduceToNat] at h₁
      exact encode_four (by omega) (by omega) (by omega) (by omega) (by omega) (by omega)


-- ---------------------------------------------------------------------------
-- Texts
-- ---------------------------------------------------------------------------

theorem toList_loop_eq (bytes : ByteArray) (i : Nat) (front : List UInt8) :
    ByteArray.toList.loop bytes i front = front.reverse ++ bytes.data.toList.drop i := by
  fun_induction ByteArray.toList.loop bytes i front with
  | case1 i front h ih =>
    have hi : i < bytes.data.toList.length := by simpa using h
    rw [ih, List.drop_eq_getElem_cons hi]
    simp [ByteArray.get!, h]
  | case2 i front h =>
    rw [List.drop_eq_nil_of_le (by simpa using Nat.le_of_not_lt h), List.append_nil]

theorem toList_toUTF8 (text : String) :
    text.toUTF8.toList = text.toList.flatMap String.utf8EncodeChar := by
  have hbytes : text.toUTF8 = (text.toList.flatMap String.utf8EncodeChar).toByteArray := by
    rw [String.toUTF8_eq_toByteArray, ← List.utf8Encode, ← String.toByteArray_ofList,
      String.ofList_toList]
  rw [hbytes, ByteArray.toList, toList_loop_eq]
  exact List.toList_data_toByteArray

theorem utf8Items_encode (cs : List Char) :
    utf8Items (cs.flatMap String.utf8EncodeChar) = cs.map some := by
  induction cs with
  | nil => rfl
  | cons c cs ih =>
    rw [utf8Items, List.flatMap_cons, utf8ItemsFrom_sequence (isSequence_encode c),
      Char.ofNat_toNat, List.map_cons]
    exact congrArg _ ih

/-- Bytes without a gap are written characters. -/
theorem exists_encode (bs : List UInt8) (whole : none ∉ utf8Items bs) :
    ∃ cs : List Char, cs.flatMap String.utf8EncodeChar = bs := by
  by_cases hnil : bs = []
  · exact ⟨[], hnil.symm⟩
  · obtain ⟨front, rest, v, rfl, hfront⟩ := exists_sequence hnil whole
    rw [utf8Items, utf8ItemsFrom_sequence hfront, List.mem_cons, not_or] at whole
    have hshort : rest.length < (front ++ rest).length := by
      rw [List.length_append]
      cases hfront <;> simp only [List.length_cons] <;> omega
    obtain ⟨cs, rfl⟩ := exists_encode rest whole.2
    exact ⟨Char.ofNat v :: cs, by rw [List.flatMap_cons, hfront.encode_eq]⟩
  termination_by bs.length

/-- The bytes that can be read are those of a text, which is what is read. -/
theorem ofUtf8?_eq_some_iff {text : String} :
    ofUtf8? bs = some text ↔ bs = text.toUTF8.toList := by
  simp only [ofUtf8?, Option.map_eq_some_iff, mapM_id_eq_some_iff, toList_toUTF8]
  constructor
  · rintro ⟨cs, hitems, rfl⟩
    obtain ⟨cs', rfl⟩ := exists_encode bs (by simp [hitems])
    rw [utf8Items_encode, List.map_inj_right fun _ _ => Option.some.inj] at hitems
    rw [String.toList_ofList, hitems]
  · rintro rfl
    exact ⟨text.toList, utf8Items_encode _, String.ofList_toList⟩

end DashboardClient.Text
