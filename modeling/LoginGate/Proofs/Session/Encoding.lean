import LoginGate.Session

/-! # Bytes and texts

Lines arrive as bytes and are answered as texts. The bytes of a text are its characters in UTF-8,
one after the other. They determine the text, and only a line feed has the byte of a line feed among
its own, so lines can be told apart before they are decoded.
-/

namespace LoginGate.Session

/-- The bytes of a text in UTF-8. -/
def encoded (text : List Char) : List UInt8 :=
  text.flatMap String.utf8EncodeChar

theorem encoded_append (first second : List Char) :
    encoded (first ++ second) = encoded first ++ encoded second :=
  List.flatMap_append

theorem encoded_cons (c : Char) (text : List Char) :
    encoded (c :: text) = String.utf8EncodeChar c ++ encoded text :=
  List.flatMap_cons

/-! ## Byte arrays -/

/-- Bytes are listed from the front, those already listed in reverse. -/
private theorem toList_loop (bytes : ByteArray) (i : Nat) (listed : List UInt8) :
    ByteArray.toList.loop bytes i listed = listed.reverse ++ bytes.data.toList.drop i := by
  fun_induction ByteArray.toList.loop bytes i listed with
  | case1 i listed more ih =>
    have inside : i < bytes.data.toList.length := more
    have here : bytes.get! i = bytes.data.toList[i] := by
      rw [ByteArray.get!, getElem!_pos bytes.data i more, Array.getElem_toList]
    rw [ih, List.drop_eq_getElem_cons inside, here]
    simp
  | case2 i listed ended =>
    have outside : bytes.data.toList.length ≤ i := Nat.le_of_not_lt ended
    rw [List.drop_eq_nil_of_le outside, List.append_nil]

private theorem toList_eq (bytes : ByteArray) : bytes.toList = bytes.data.toList :=
  toList_loop bytes 0 []

theorem toList_toUTF8 (text : String) : text.toUTF8.toList = encoded text.toList := by
  have bytes : text.toUTF8 = (encoded text.toList).toByteArray := by
    rw [String.toUTF8_eq_toByteArray, encoded, ← List.utf8Encode, String.utf8Encode_toList]
  rw [bytes, toList_eq, List.toList_data_toByteArray]

/-! ## Decoding -/

private theorem fromUTF8?_eq_some_iff {bytes : ByteArray} {text : String} :
    String.fromUTF8? bytes = some text ↔ bytes = text.toUTF8 := by
  rw [String.fromUTF8?]
  constructor
  · intro read
    split at read
    · next valid =>
      obtain rfl := Option.some.inj read
      rfl
    · cases read
  · rintro rfl
    exact dif_pos text.isValidUTF8

theorem decode?_eq_some_iff {bytes : List UInt8} {text : List Char} :
    decode? bytes = some text ↔ bytes = encoded text := by
  have listed : (⟨bytes.toArray⟩ : ByteArray).toList = bytes := toList_eq _
  rw [decode?, Option.map_eq_some_iff]
  constructor
  · rintro ⟨string, read, rfl⟩
    rw [← toList_toUTF8, ← fromUTF8?_eq_some_iff.mp read, listed]
  · rintro rfl
    refine ⟨String.ofList text, fromUTF8?_eq_some_iff.mpr ?_, String.toList_ofList⟩
    have same := toList_toUTF8 (String.ofList text)
    rw [String.toList_ofList, toList_eq] at same
    exact ByteArray.ext (Array.toList_inj.mp same.symm)

/-- A line is decoded with the line feed that ends it. -/
theorem decode?_line (text : List Char) :
    decode? (encoded text ++ [lineFeed]) = some (text ++ ['\n']) :=
  decode?_eq_some_iff.mpr (encoded_append text ['\n']).symm

theorem decode?_eq_none_iff {bytes : List UInt8} :
    decode? bytes = none ↔ ∀ text, bytes ≠ encoded text := by
  rw [Option.eq_none_iff_forall_ne_some]
  exact forall_congr' fun text => not_congr decode?_eq_some_iff

/-! ## Line feeds -/

/-- All bytes of a character beyond ASCII are large. -/
private theorem eq_of_lineFeed_mem {c : Char} (member : lineFeed ∈ String.utf8EncodeChar c) :
    c = '\n' := by
  have byte {n : Nat} (same : lineFeed = UInt8.ofNat n) : n % 256 = 10 := by
    simpa [lineFeed] using (congrArg UInt8.toNat same).symm
  revert member
  -- A character of one byte is that byte; those of two, three or four are all 128 or above.
  fun_cases String.utf8EncodeChar c with
  | case1 value small =>
    intro member
    have same := byte (List.mem_singleton.mp member)
    exact Char.ext (UInt32.toNat_inj.mp (by change value = 10; omega))
  | case2 =>
    intro member
    simp only [List.mem_cons, List.not_mem_nil, or_false] at member
    rcases member with same | same <;> have := byte same <;> omega
  | case3 =>
    intro member
    simp only [List.mem_cons, List.not_mem_nil, or_false] at member
    rcases member with same | same | same <;> have := byte same <;> omega
  | case4 =>
    intro member
    simp only [List.mem_cons, List.not_mem_nil, or_false] at member
    rcases member with same | same | same | same <;> have := byte same <;> omega

theorem lineFeed_mem_encoded {text : List Char} : lineFeed ∈ encoded text ↔ '\n' ∈ text := by
  rw [encoded, List.mem_flatMap]
  constructor
  · rintro ⟨c, member, byte⟩
    exact eq_of_lineFeed_mem byte ▸ member
  · intro member
    exact ⟨'\n', member, by decide⟩

end LoginGate.Session
