import RestQuery.Text.Percent

/-!
# What is percent-encoded is decoded

Every byte of an encoded text is read back, whether it was kept or escaped
(`unescapeBytes_encodeByte`), as long as the sign that starts an escape is not kept. So the bytes of
a text are read back, and the text with them (`percentDecode_percentEncode`). An encoded text is
written with kept characters and escapes and nothing else (`escaped_percentEncode`).
-/

namespace RestQuery.Text

variable {keep : Char → Bool}

/-- The bytes of a text are those of UTF-8. -/
theorem fromUTF8?_utf8Bytes (s : String) : String.fromUTF8? (utf8Bytes s).toByteArray = some s := by
  have hbytes : (utf8Bytes s).toByteArray = s.toByteArray := String.utf8Encode_toList
  rw [hbytes, String.fromUTF8?, dif_pos s.isValidUTF8]
  rfl

/-- A text is read back from its bytes. -/
theorem decodeUtf8_utf8Bytes (s : String) : decodeUtf8 (utf8Bytes s) = s := by
  rw [decodeUtf8, fromUTF8?_utf8Bytes]
  rfl

/-- A byte of ASCII is the only byte of its character. -/
theorem utf8EncodeChar_ofNat :
    ∀ n < 128, String.utf8EncodeChar (Char.ofNat n) = [UInt8.ofNat n] := by
  decide +kernel

/-- An escape is three bytes, which stand for the byte that was escaped. -/
theorem escape_bytes : ∀ n < 256, ∃ high low,
    (['%', upperHexDigit (n / 16), upperHexDigit (n % 16)].flatMap String.utf8EncodeChar) =
      [0x25, high, low] ∧ escapedByte? 0x25 high low = some (UInt8.ofNat n) := by
  have hdigits : ∀ n < 256,
      (['%', upperHexDigit (n / 16), upperHexDigit (n % 16)].flatMap String.utf8EncodeChar) =
        [0x25, UInt8.ofNat (upperHexDigit (n / 16)).toNat,
          UInt8.ofNat (upperHexDigit (n % 16)).toNat] ∧
      escapedByte? 0x25 (UInt8.ofNat (upperHexDigit (n / 16)).toNat)
        (UInt8.ofNat (upperHexDigit (n % 16)).toNat) = some (UInt8.ofNat n) := by
    decide +kernel
  exact fun n hn => ⟨_, _, hdigits n hn⟩

/-- A byte that starts no escape stays. -/
theorem unescapeBytes_cons {b : UInt8} (h : b ≠ 0x25) (rest : List UInt8) :
    unescapeBytes (b :: rest) = b :: unescapeBytes rest := by
  match rest with
  | [] => rfl
  | [_] => rfl
  | c :: d :: rest =>
    have hnone : escapedByte? b c d = none := by
      rw [escapedByte?, if_pos h]
      rfl
    rw [unescapeBytes, hnone]

/-- An encoded byte is read back. -/
theorem unescapeBytes_encodeByte (hsign : keep '%' = false) (b : UInt8) (rest : List UInt8) :
    unescapeBytes ((encodeByte keep b).flatMap String.utf8EncodeChar ++ rest) =
      b :: unescapeBytes rest := by
  have hbyte : UInt8.ofNat b.toNat = b := UInt8.ofNat_toNat
  unfold encodeByte
  dsimp only
  split
  · rename_i hkept
    -- The sign itself is not kept, so a byte that is kept starts no escape.
    have hne : b ≠ 0x25 := by
      rintro rfl
      have hkeep := hkept.2
      rw [show Char.ofNat (0x25 : UInt8).toNat = '%' from rfl, hsign] at hkeep
      cases hkeep
    rw [List.flatMap_singleton, utf8EncodeChar_ofNat b.toNat hkept.1, hbyte, List.singleton_append]
    exact unescapeBytes_cons hne rest
  · obtain ⟨high, low, hbytes, hescape⟩ := escape_bytes b.toNat b.toNat_lt
    rw [hbytes, List.cons_append, List.cons_append, List.singleton_append, unescapeBytes, hescape,
      hbyte]

/-- The bytes of an encoded text stand for those of the text. -/
theorem unescapeBytes_percentEncode (hsign : keep '%' = false) (s : String) :
    unescapeBytes (utf8Bytes (percentEncode keep s)) = utf8Bytes s := by
  have hread : ∀ bytes : List UInt8,
      unescapeBytes ((bytes.flatMap (encodeByte keep)).flatMap String.utf8EncodeChar) = bytes := by
    intro bytes
    induction bytes with
    | nil => rfl
    | cons b rest ih =>
      rw [List.flatMap_cons, List.flatMap_append, unescapeBytes_encodeByte hsign, ih]
  have hwritten : utf8Bytes (percentEncode keep s) =
      ((utf8Bytes s).flatMap (encodeByte keep)).flatMap String.utf8EncodeChar := by
    rw [percentEncode, utf8Bytes, String.toList_ofList]
  rw [hwritten, hread]

/-- An encoded text is decoded. -/
theorem percentDecode_percentEncode (hsign : keep '%' = false) (s : String) :
    percentDecode (percentEncode keep s) = s := by
  rw [percentDecode, unescapeBytes_percentEncode hsign, decodeUtf8_utf8Bytes]

/-! ## How an encoded text is written -/

/-- The digits that escapes are written with. -/
def escapeDigits : List Char := "0123456789ABCDEF".toList

/-- Texts of kept characters and of escapes. -/
inductive Escaped (keep : Char → Bool) : List Char → Prop where
  | nil : Escaped keep []
  | kept {c : Char} {rest : List Char} (hc : keep c = true) (h : Escaped keep rest) :
    Escaped keep (c :: rest)
  | escape {high low : Char} {rest : List Char} (hhigh : high ∈ escapeDigits)
    (hlow : low ∈ escapeDigits) (h : Escaped keep rest) : Escaped keep ('%' :: high :: low :: rest)

theorem upperHexDigit_mem : ∀ n < 16, upperHexDigit n ∈ escapeDigits := by decide

/-- A byte is written as a kept character or as an escape. -/
theorem Escaped.encodeByte (b : UInt8) {rest : List Char} (h : Escaped keep rest) :
    Escaped keep (encodeByte keep b ++ rest) := by
  unfold Text.encodeByte
  dsimp only
  split
  · rename_i hkept
    exact .kept hkept.2 h
  · have hbyte := b.toNat_lt
    exact .escape (upperHexDigit_mem _ (by omega)) (upperHexDigit_mem _ (by omega)) h

/-- An encoded text has kept characters and escapes only. -/
theorem escaped_percentEncode (keep : Char → Bool) (s : String) :
    Escaped keep (percentEncode keep s).toList := by
  rw [percentEncode, String.toList_ofList]
  induction utf8Bytes s with
  | nil => exact .nil
  | cons b rest ih => exact ih.encodeByte b

/-- A character that is not kept, and that no escape is written with, is not in such a text. -/
theorem Escaped.not_mem {c : Char} (hkeep : keep c = false) (hescape : c ∉ '%' :: escapeDigits)
    {cs : List Char} (h : Escaped keep cs) : c ∉ cs := by
  obtain ⟨hsign, hdigits⟩ := List.ne_and_not_mem_of_not_mem_cons hescape
  induction h with
  | nil => exact List.not_mem_nil
  | kept hc _ ih =>
    refine List.not_mem_cons_of_ne_of_not_mem ?_ ih
    rintro rfl
    exact Bool.false_ne_true (hkeep.symm.trans hc)
  | escape hhigh hlow _ ih =>
    refine List.not_mem_cons_of_ne_of_not_mem hsign ?_
    refine List.not_mem_cons_of_ne_of_not_mem (fun heq => hdigits (heq ▸ hhigh)) ?_
    exact List.not_mem_cons_of_ne_of_not_mem (fun heq => hdigits (heq ▸ hlow)) ih

/-- A character that is not kept, and that no escape is written with, is not in an encoded text. -/
theorem not_mem_percentEncode {c : Char} (hkeep : keep c = false)
    (hescape : c ∉ '%' :: escapeDigits) (s : String) : c ∉ (percentEncode keep s).toList :=
  (escaped_percentEncode keep s).not_mem hkeep hescape

end RestQuery.Text
