import ExprGateway.Text.Utf8

/-!
# Decoding and its inverse

Decoding with replacement loses nothing without saying so.  Bytes that are the encoding of characters are
read as these characters (`decodeChars_encode`); and bytes in whose reading no replacement occurs are the
encoding of what was read (`encode_decodeChars`).  So what is no encoding of any characters leaves a
replacement behind (`replacement_mem_of_not_valid`).

The second direction is an invariant of the reader between two bytes.  `Begun` says which bytes have been
read of a character that has begun; once the last one is there they spell it (`Begun.spells`).
-/

namespace ExprGateway.Utf8

/-- The bytes of characters. -/
def encode (cs : List Char) : List UInt8 := cs.flatMap String.utf8EncodeChar

theorem encode_concat (cs : List Char) (c : Char) :
    encode (cs ++ [c]) = encode cs ++ String.utf8EncodeChar c := by
  rw [encode, List.flatMap_append, List.flatMap_singleton]
  rfl

theorem toByteArray_inj {bytes bytes' : List UInt8} :
    bytes.toByteArray = bytes'.toByteArray ↔ bytes = bytes' := by
  constructor
  · intro h
    have hdata := congrArg ByteArray.data h
    rw [List.data_toByteArray, List.data_toByteArray] at hdata
    exact congrArg Array.toList hdata
  · rintro rfl
    rfl

/-- The bytes of a text are those of its characters. -/
theorem toUTF8_eq (s : String) : s.toUTF8 = (encode s.toList).toByteArray := by
  rw [String.toUTF8_eq_toByteArray]
  exact (String.utf8Encode_toList).symm

/-! ## Leads

The first byte of a longer character says how many follow, and between which bounds the next one is. -/

theorem toNat_ofNat {n : Nat} (h : n < 256) : (UInt8.ofNat n).toNat = n := by
  rw [UInt8.toNat_ofNat']
  exact Nat.mod_eq_of_lt h

theorem lead_of_two {n : Nat} (h : 0xc2 ≤ n) (h' : n < 0xe0) :
    lead n = .inr (some ⟨n - 0xc0, 1, 0x80, 0xbf⟩) := by
  rw [lead, if_neg (by omega), if_neg (by omega), if_pos h']

theorem lead_of_three {n : Nat} (h : 0xe0 ≤ n) (h' : n < 0xf0) :
    lead n = .inr (some ⟨n - 0xe0, 2, if n = 0xe0 then 0xa0 else 0x80,
      if n = 0xed then 0x9f else 0xbf⟩) := by
  rw [lead, if_neg (by omega), if_neg (by omega), if_neg (by omega), if_pos h']

theorem lead_of_four {n : Nat} (h : 0xf0 ≤ n) (h' : n < 0xf5) :
    lead n = .inr (some ⟨n - 0xf0, 3, if n = 0xf0 then 0x90 else 0x80,
      if n = 0xf4 then 0x8f else 0xbf⟩) := by
  rw [lead, if_neg (by omega), if_neg (by omega), if_neg (by omega), if_neg (by omega), if_pos h']

/-- There are no other leads. -/
theorem lead_cases {n : Nat} {o : Open} (h : lead n = .inr (some o)) :
    (0xc2 ≤ n ∧ n < 0xe0 ∧ o = ⟨n - 0xc0, 1, 0x80, 0xbf⟩) ∨
    (0xe0 ≤ n ∧ n < 0xf0 ∧ o = ⟨n - 0xe0, 2, if n = 0xe0 then 0xa0 else 0x80,
      if n = 0xed then 0x9f else 0xbf⟩) ∨
    (0xf0 ≤ n ∧ n < 0xf5 ∧ o = ⟨n - 0xf0, 3, if n = 0xf0 then 0x90 else 0x80,
      if n = 0xf4 then 0x8f else 0xbf⟩) := by
  have hopen : ∀ {o' : Open}, lead n = .inr (some o') → o = o' := fun h' =>
    Option.some.inj (Sum.inr.inj (h.symm.trans h'))
  by_cases h₁ : n < 0xc2
  · unfold lead at h
    rw [if_pos h₁] at h
    split at h <;> cases h
  · by_cases h₂ : n < 0xe0
    · exact .inl ⟨by omega, h₂, hopen (lead_of_two (by omega) h₂)⟩
    · by_cases h₃ : n < 0xf0
      · exact .inr (.inl ⟨by omega, h₃, hopen (lead_of_three (by omega) h₃)⟩)
      · by_cases h₄ : n < 0xf5
        · exact .inr (.inr ⟨by omega, h₄, hopen (lead_of_four (by omega) h₄)⟩)
        · rw [lead, if_neg (by omega), if_neg h₁, if_neg h₂, if_neg h₃, if_neg h₄] at h
          cases h

theorem lead_eq_inl {n : Nat} {c : Char} (h : lead n = .inl c) : n < 0x80 ∧ c = Char.ofNat n := by
  unfold lead at h
  split at h
  next hn => exact ⟨hn, (Sum.inl.inj h).symm⟩
  next =>
    repeat' split at h
    all_goals cases h

/-! ## Reading what was encoded -/

section Reading

variable {output : List Char} {n bits missing low high : Nat}

theorem read_lead {o : Open} (hn : n < 256) (h : lead n = .inr (some o)) :
    Reader.read ⟨output, none⟩ (UInt8.ofNat n) = ⟨output, some o⟩ := by
  simp only [Reader.read, begin, toNat_ofNat hn, h]

theorem read_next (hlow : low ≤ n) (hhigh : n ≤ high) (hn : n < 256) (hm : missing ≠ 1) :
    Reader.read ⟨output, some ⟨bits, missing, low, high⟩⟩ (UInt8.ofNat n) =
      ⟨output, some ⟨bits * 64 + (n - 0x80), missing - 1, 0x80, 0xbf⟩⟩ := by
  have hinside : (decide (low ≤ n) && decide (n ≤ high)) = true := by simp [hlow, hhigh]
  simp only [Reader.read, toNat_ofNat hn, hinside, hm, if_true, if_false]

theorem read_last (hlow : low ≤ n) (hhigh : n ≤ high) (hn : n < 256) :
    Reader.read ⟨output, some ⟨bits, 1, low, high⟩⟩ (UInt8.ofNat n) =
      ⟨Char.ofNat (bits * 64 + (n - 0x80)) :: output, none⟩ := by
  have hinside : (decide (low ≤ n) && decide (n ≤ high)) = true := by simp [hlow, hhigh]
  simp only [Reader.read, toNat_ofNat hn, hinside, if_true]

/-- A character is read from its bytes. -/
theorem read_char (output : List Char) (c : Char) :
    (String.utf8EncodeChar c).foldl Reader.read ⟨output, none⟩ = ⟨c :: output, none⟩ := by
  have hvalid : c.toNat < 0xd800 ∨ 0xdfff < c.toNat ∧ c.toNat < 0x110000 := c.valid
  have hval : c.val.toNat = c.toNat := rfl
  have hchar : ∀ {v : Nat}, v = c.toNat →
      (⟨Char.ofNat v :: output, none⟩ : Reader) = ⟨c :: output, none⟩ := by
    rintro _ rfl
    rw [Char.ofNat_toNat]
  unfold String.utf8EncodeChar
  simp only [hval]
  -- one case for each number of bytes
  split
  · have hlead : lead c.toNat = .inl (Char.ofNat c.toNat) := if_pos (by omega)
    have hbyte : (UInt8.ofNat c.toNat).toNat = c.toNat := toNat_ofNat (by omega)
    simp only [List.foldl_cons, List.foldl_nil, Reader.read, begin, hbyte, hlead]
    exact hchar rfl
  · split
    · rw [List.foldl_cons, List.foldl_cons, List.foldl_nil,
        read_lead (by omega) (lead_of_two (by omega) (by omega)),
        read_last (by omega) (by omega) (by omega)]
      exact hchar (by omega)
    · split
      · rw [List.foldl_cons, List.foldl_cons, List.foldl_cons, List.foldl_nil,
          read_lead (by omega) (lead_of_three (by omega) (by omega)),
          read_next (by split <;> omega) (by split <;> omega) (by omega) (by decide),
          read_last (by omega) (by omega) (by omega)]
        exact hchar (by omega)
      · rw [List.foldl_cons, List.foldl_cons, List.foldl_cons, List.foldl_cons, List.foldl_nil,
          read_lead (by omega) (lead_of_four (by omega) (by omega)),
          read_next (by split <;> omega) (by split <;> omega) (by omega) (by decide),
          read_next (by omega) (by omega) (by omega) (by decide),
          read_last (by omega) (by omega) (by omega)]
        exact hchar (by omega)

end Reading

theorem read_chars (cs : List Char) :
    ∀ output : List Char,
      (encode cs).foldl Reader.read ⟨output, none⟩ = ⟨cs.reverse ++ output, none⟩ := by
  induction cs with
  | nil => exact fun _ => rfl
  | cons c cs ih =>
      intro output
      rw [encode, List.flatMap_cons, List.foldl_append, read_char]
      exact (ih (c :: output)).trans (by simp)

/-- Encoded characters are read as they are. -/
theorem decodeChars_encode (cs : List Char) : decodeChars (encode cs) = cs := by
  rw [decodeChars, read_chars, Reader.finish, List.append_nil, List.reverse_reverse]

/-- The bytes of a text are read as this text. -/
theorem decode_of_toUTF8 {bytes : List UInt8} {text : String} (h : bytes.toByteArray = text.toUTF8) :
    decode bytes = text := by
  rw [toUTF8_eq, toByteArray_inj] at h
  rw [h, decode, decodeChars_encode, String.ofList_toList]

/-! ## Reading what was not -/

/-- The bytes that have been read of a character that has begun. -/
inductive Begun : List UInt8 → Open → Prop where
  | lead {b : UInt8} {o : Open} : Utf8.lead b.toNat = .inr (some o) → Begun [b] o
  | next {bytes : List UInt8} {o : Open} {b : UInt8} :
      Begun bytes o → o.low ≤ b.toNat → b.toNat ≤ o.high → o.missing ≠ 1 →
      Begun (bytes ++ [b]) ⟨o.bits * 64 + (b.toNat - 0x80), o.missing - 1, 0x80, 0xbf⟩

theorem ofNat_eq {n : Nat} {b : UInt8} (h : n = b.toNat) : UInt8.ofNat n = b := by
  rw [h, UInt8.ofNat_toNat]

section Spelling

variable {v : Nat}

theorem toNat_val_ofNat (h : v < 0xd800 ∨ 0xdfff < v ∧ v < 0x110000) : (Char.ofNat v).val.toNat = v := by
  rw [Char.ofNat, dif_pos h]
  rfl

theorem encodeChar_of_one (h : v < 0x80) : String.utf8EncodeChar (Char.ofNat v) = [UInt8.ofNat v] := by
  unfold String.utf8EncodeChar
  simp only [toNat_val_ofNat (v := v) (by omega)]
  rw [if_pos (by omega)]

theorem encodeChar_of_two (h : 0x80 ≤ v) (h' : v < 0x800) :
    String.utf8EncodeChar (Char.ofNat v) =
      [UInt8.ofNat (v / 64 % 32 + 192), UInt8.ofNat (v % 64 + 128)] := by
  unfold String.utf8EncodeChar
  simp only [toNat_val_ofNat (v := v) (by omega)]
  rw [if_neg (by omega), if_pos (by omega)]

theorem encodeChar_of_three (h : 0x800 ≤ v) (h' : v < 0x10000) (hs : v < 0xd800 ∨ 0xdfff < v) :
    String.utf8EncodeChar (Char.ofNat v) =
      [UInt8.ofNat (v / 4096 % 16 + 224), UInt8.ofNat (v / 64 % 64 + 128),
        UInt8.ofNat (v % 64 + 128)] := by
  unfold String.utf8EncodeChar
  simp only [toNat_val_ofNat (v := v) (by omega)]
  rw [if_neg (by omega), if_neg (by omega), if_pos (by omega)]

theorem encodeChar_of_four (h : 0x10000 ≤ v) (h' : v < 0x110000) :
    String.utf8EncodeChar (Char.ofNat v) =
      [UInt8.ofNat (v / 262144 % 8 + 240), UInt8.ofNat (v / 4096 % 64 + 128),
        UInt8.ofNat (v / 64 % 64 + 128), UInt8.ofNat (v % 64 + 128)] := by
  unfold String.utf8EncodeChar
  simp only [toNat_val_ofNat (v := v) (by omega)]
  rw [if_neg (by omega), if_neg (by omega), if_neg (by omega)]

end Spelling

section Bytes

variable {b₁ b₂ b₃ b : UInt8} {o : Open}

theorem spells_two (h : lead b₁.toNat = .inr (some o)) (hm : o.missing = 1) (hlow : o.low ≤ b.toNat)
    (hhigh : b.toNat ≤ o.high) :
    String.utf8EncodeChar (Char.ofNat (o.bits * 64 + (b.toNat - 0x80))) = [b₁, b] := by
  rcases lead_cases h with ⟨h₁, h₁', rfl⟩ | ⟨-, -, rfl⟩ | ⟨-, -, rfl⟩
  · dsimp only at hlow hhigh ⊢
    rw [encodeChar_of_two (by omega) (by omega), ofNat_eq (b := b₁) (by omega),
      ofNat_eq (b := b) (by omega)]
  · exact absurd hm (by simp)
  · exact absurd hm (by simp)

/-- The bounds of the second byte keep out what would be shorter, and the surrogates. -/
theorem spells_three (h : lead b₁.toNat = .inr (some o)) (hm : o.missing = 2)
    (hlow₂ : o.low ≤ b₂.toNat) (hhigh₂ : b₂.toNat ≤ o.high) (hlow : 0x80 ≤ b.toNat)
    (hhigh : b.toNat ≤ 0xbf) :
    String.utf8EncodeChar (Char.ofNat ((o.bits * 64 + (b₂.toNat - 0x80)) * 64 + (b.toNat - 0x80))) =
      [b₁, b₂, b] := by
  rcases lead_cases h with ⟨-, -, rfl⟩ | ⟨h₁, h₁', rfl⟩ | ⟨-, -, rfl⟩
  · exact absurd hm (by simp)
  · dsimp only at hlow₂ hhigh₂ ⊢
    split at hlow₂ <;> split at hhigh₂ <;>
      rw [encodeChar_of_three (by omega) (by omega) (by omega), ofNat_eq (b := b₁) (by omega),
        ofNat_eq (b := b₂) (by omega), ofNat_eq (b := b) (by omega)]
  · exact absurd hm (by simp)

/-- The bounds of the second byte keep out what would be shorter, and what is beyond the last code
point. -/
theorem spells_four (h : lead b₁.toNat = .inr (some o)) (hm : o.missing = 3)
    (hlow₂ : o.low ≤ b₂.toNat) (hhigh₂ : b₂.toNat ≤ o.high) (hlow₃ : 0x80 ≤ b₃.toNat)
    (hhigh₃ : b₃.toNat ≤ 0xbf) (hlow : 0x80 ≤ b.toNat) (hhigh : b.toNat ≤ 0xbf) :
    String.utf8EncodeChar (Char.ofNat
      (((o.bits * 64 + (b₂.toNat - 0x80)) * 64 + (b₃.toNat - 0x80)) * 64 + (b.toNat - 0x80))) =
      [b₁, b₂, b₃, b] := by
  rcases lead_cases h with ⟨-, -, rfl⟩ | ⟨-, -, rfl⟩ | ⟨h₁, h₁', rfl⟩
  · exact absurd hm (by simp)
  · exact absurd hm (by simp)
  · dsimp only at hlow₂ hhigh₂ ⊢
    split at hlow₂ <;> split at hhigh₂ <;>
      rw [encodeChar_of_four (by omega) (by omega), ofNat_eq (b := b₁) (by omega),
        ofNat_eq (b := b₂) (by omega), ofNat_eq (b := b₃) (by omega), ofNat_eq (b := b) (by omega)]

end Bytes

namespace Begun

variable {bytes : List UInt8} {o : Open} {b : UInt8}

theorem missing_le (h : Begun bytes o) : o.missing ≤ 3 := by
  induction h with
  | lead h =>
      rcases lead_cases h with ⟨-, -, rfl⟩ | ⟨-, -, rfl⟩ | ⟨-, -, rfl⟩ <;> simp
  | next _ _ _ _ ih =>
      dsimp only
      omega

/-- With its last byte a character is spelled. -/
theorem spells (h : Begun bytes o) (hlow : o.low ≤ b.toNat) (hhigh : b.toNat ≤ o.high)
    (hm : o.missing = 1) :
    String.utf8EncodeChar (Char.ofNat (o.bits * 64 + (b.toNat - 0x80))) = bytes ++ [b] := by
  cases h with
  | lead h => exact spells_two h hm hlow hhigh
  | next h hlow₂ hhigh₂ hm₂ =>
      dsimp only at hm
      cases h with
      | lead h => exact spells_three h (by omega) hlow₂ hhigh₂ hlow hhigh
      | next h hlow₃ hhigh₃ hm₃ =>
          dsimp only at hm
          cases h with
          | lead h => exact spells_four h (by omega) hlow₃ hhigh₃ hlow₂ hhigh₂ hlow hhigh
          | next h =>
              have hle := h.missing_le
              dsimp only at hm
              omega

end Begun

/-- What the reader knows of the bytes so far: they are those of its characters and of the character that
has begun, unless something was replaced. -/
inductive Faithful (bytes : List UInt8) : Reader → Prop where
  | replaced {r : Reader} : replacement ∈ r.output → Faithful bytes r
  | between {output : List Char} : bytes = encode output.reverse → Faithful bytes ⟨output, none⟩
  | inside {output : List Char} {pending : List UInt8} {o : Open} :
      Begun pending o → bytes = encode output.reverse ++ pending → Faithful bytes ⟨output, some o⟩

theorem mem_begin {output : List Char} (h : replacement ∈ output) (n : Nat) :
    replacement ∈ (begin output n).output := by
  unfold begin
  split
  · exact List.mem_cons_of_mem _ h
  · exact List.mem_cons_self
  · exact h

theorem faithful_begin {bytes : List UInt8} {output : List Char} (h : bytes = encode output.reverse)
    (b : UInt8) : Faithful (bytes ++ [b]) (begin output b.toNat) := by
  unfold begin
  split
  next c hc =>
    obtain ⟨hn, rfl⟩ := lead_eq_inl hc
    refine .between ?_
    rw [List.reverse_cons, encode_concat, encodeChar_of_one hn, UInt8.ofNat_toNat, h]
  next => exact .replaced List.mem_cons_self
  next o ho => exact .inside (.lead ho) (by rw [h])

theorem mem_read {r : Reader} (h : replacement ∈ r.output) (b : UInt8) :
    replacement ∈ (r.read b).output := by
  unfold Reader.read
  dsimp only
  split
  · exact mem_begin h _
  · split
    · split
      · exact List.mem_cons_of_mem _ h
      · exact h
    · exact mem_begin (List.mem_cons_of_mem _ h) _

/-- A byte keeps the reader faithful. -/
theorem Faithful.read {bytes : List UInt8} {r : Reader} (h : Faithful bytes r) (b : UInt8) :
    Faithful (bytes ++ [b]) (r.read b) := by
  cases h with
  | replaced h => exact .replaced (mem_read h b)
  | between h => exact faithful_begin h b
  | @inside output pending o hbegun h =>
      unfold Reader.read
      dsimp only
      split
      next hinside =>
        obtain ⟨hlow, hhigh⟩ : o.low ≤ b.toNat ∧ b.toNat ≤ o.high := by simpa using hinside
        split
        next hm =>
          refine .between ?_
          rw [List.reverse_cons, encode_concat, hbegun.spells hlow hhigh hm, h, List.append_assoc]
        next hm => exact .inside (hbegun.next hlow hhigh hm) (by rw [h, List.append_assoc])
      next => exact .replaced (mem_begin List.mem_cons_self _)

theorem faithful_foldl (bytes : List UInt8) :
    ∀ {before : List UInt8} {r : Reader}, Faithful before r →
      Faithful (before ++ bytes) (bytes.foldl Reader.read r) := by
  induction bytes with
  | nil =>
      intro before r h
      rwa [List.append_nil]
  | cons b bytes ih =>
      intro before r h
      have hrest := ih (h.read b)
      rwa [List.append_assoc] at hrest

/-- Where nothing was replaced, the bytes are those of what was read. -/
theorem encode_decodeChars {bytes : List UInt8} (h : replacement ∉ decodeChars bytes) :
    encode (decodeChars bytes) = bytes := by
  have hfaithful := faithful_foldl bytes (.between rfl : Faithful [] ⟨[], none⟩)
  rw [List.nil_append] at hfaithful
  rw [decodeChars] at h ⊢
  generalize bytes.foldl Reader.read ⟨[], none⟩ = r at hfaithful h ⊢
  have hmem : replacement ∉ r.finish := fun hmem => h (List.mem_reverse.mpr hmem)
  cases hfaithful with
  | @replaced r hoccurs =>
      refine absurd ?_ hmem
      unfold Reader.finish
      split
      · exact hoccurs
      · exact List.mem_cons_self
  | between hbytes => exact hbytes.symm
  | inside => exact absurd List.mem_cons_self hmem

/-- Bytes are an encoding of characters if it is that of the characters that they are read as. -/
theorem isValidUTF8_iff {bytes : List UInt8} :
    bytes.toByteArray.IsValidUTF8 ↔ encode (decodeChars bytes) = bytes := by
  constructor
  · rintro ⟨cs, hcs⟩
    obtain rfl : bytes = encode cs := toByteArray_inj.mp hcs
    rw [decodeChars_encode]
  · exact fun h => ⟨decodeChars bytes, toByteArray_inj.mpr h.symm⟩

/-- What is no encoding of any characters leaves a replacement behind. -/
theorem replacement_mem_of_not_valid {bytes : List UInt8} (h : ¬ bytes.toByteArray.IsValidUTF8) :
    replacement ∈ (decode bytes).toList := by
  rw [decode, String.toList_ofList]
  exact Decidable.byContradiction fun hmem => h (isValidUTF8_iff.mpr (encode_decodeChars hmem))

/-- Bytes that are read without a replacement are those of the text. -/
theorem toUTF8_decode {bytes : List UInt8} (h : replacement ∉ (decode bytes).toList) :
    (decode bytes).toUTF8 = bytes.toByteArray := by
  rw [decode, String.toList_ofList] at h
  rw [toUTF8_eq, decode, String.toList_ofList, encode_decodeChars h]

end ExprGateway.Utf8
