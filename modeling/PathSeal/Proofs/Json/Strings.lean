import PathSeal.Json.Value

/-!
# PathSeal.Proofs.Json.Strings

A character may be written in several ways inside a string (`SpellsChar`). Whichever is
taken, it is read back (`string_of_spells`), whatever follows the string. What the
library writes is one of them (`spells_written`).

Skipping a string asks for less: that it is made of characters and escapes
(`skipString_append`). Half a surrogate pair is skipped, but it is not read.
-/

namespace PathSeal.Json

open Text (hexDigit?)
open Value (writtenChar hexByte)

/-! ## Numbers of characters -/

/-- Four hexadecimal digits and their number. -/
inductive HexFour : List Char → Nat → Prop where
  | digits {a b c d : Char} {x y z w : Nat} (ha : hexDigit? a = some x) (hb : hexDigit? b = some y)
    (hc : hexDigit? c = some z) (hd : hexDigit? d = some w) :
    HexFour [a, b, c, d] (((x * 16 + y) * 16 + z) * 16 + w)

theorem hexDigit?_digitChar {n : Nat} (h : n < 16) : hexDigit? (Nat.digitChar n) = some n := by
  have hall : ∀ n < 16, hexDigit? (Nat.digitChar n) = some n := by decide
  exact hall n h

theorem hexFour_hexByte {n : Nat} (h : n < 256) : HexFour ('0' :: '0' :: hexByte n) n := by
  have hzero : hexDigit? '0' = some 0 := by decide
  have hhigh : hexDigit? (Nat.digitChar (n / 16)) = some (n / 16) := hexDigit?_digitChar (by omega)
  have hlow : hexDigit? (Nat.digitChar (n % 16)) = some (n % 16) := hexDigit?_digitChar (by omega)
  have hn : ((0 * 16 + 0) * 16 + n / 16) * 16 + n % 16 = n := by omega
  have hdigits := HexFour.digits hzero hzero hhigh hlow
  rwa [hn] at hdigits

theorem hexEscape_append {ds : List Char} {n : Nat} (h : HexFour ds n) (rest : List Char) :
    hexEscape (ds ++ rest) = .ok (n, rest) := by
  cases h with
  | digits ha hb hc hd => simp only [List.cons_append, List.nil_append, hexEscape, ha, hb, hc, hd]

/-! ## Characters -/

/-- The ways to write a character inside a string: as it is, by an escape of one letter, or by its
number, which beyond four digits is the pair of its surrogates. -/
inductive SpellsChar : List Char → Char → Prop where
  | plain {c : Char} (hquote : c ≠ '"') (hbackslash : c ≠ '\\') (hprintable : ¬c.toNat < 0x20) :
    SpellsChar [c] c
  | short {letter c : Char} (h : simpleEscape? letter = some c) : SpellsChar ['\\', letter] c
  | unit {ds : List Char} {n : Nat} (h : HexFour ds n) (hn : n < 0xd800 ∨ 0xdfff < n) :
    SpellsChar ('\\' :: 'u' :: ds) (Char.ofNat n)
  | pair {ds ds' : List Char} {high low : Nat} (hds : HexFour ds high) (hds' : HexFour ds' low)
    (hhigh : 0xd800 ≤ high ∧ high ≤ 0xdbff) (hlow : 0xdc00 ≤ low ∧ low ≤ 0xdfff) :
    SpellsChar ('\\' :: 'u' :: ds ++ '\\' :: 'u' :: ds')
      (Char.ofNat ((high - 0xd800) * 0x400 + (low - 0xdc00) + 0x10000))

/-- The characters inside a string and the text that they stand for. -/
inductive Spells : List Char → List Char → Prop where
  | nil : Spells [] []
  | cons {cs more text : List Char} {c : Char} (h : SpellsChar cs c) (hmore : Spells more text) :
    Spells (cs ++ more) (c :: text)

/-- The library writes each character in one of the ways. -/
theorem spellsChar_written (c : Char) : SpellsChar (writtenChar c) c := by
  rw [writtenChar]
  split
  · next h => exact .short (by rw [h]; rfl)
  split
  · next h => exact .short (by rw [h]; rfl)
  split
  · next h => exact .short (by rw [h]; rfl)
  split
  · next h => exact .short (by rw [h]; rfl)
  split
  · next h => exact .short (by rw [h]; rfl)
  split
  · next h => exact .short (by rw [h]; rfl)
  split
  · next h => exact .short (by rw [h]; rfl)
  split
  · next h =>
    have hdigits : HexFour ('0' :: '0' :: hexByte c.toNat) c.toNat := hexFour_hexByte (by omega)
    have hunit := SpellsChar.unit hdigits (by omega)
    rwa [Char.ofNat_toNat] at hunit
  · next hquote hbackslash _ _ _ _ _ hprintable => exact .plain hquote hbackslash hprintable

/-- So it does with texts. -/
theorem spells_written (text : List Char) : Spells (text.flatMap writtenChar) text := by
  induction text with
  | nil => exact .nil
  | cons c text ih =>
    rw [List.flatMap_cons]
    exact .cons (spellsChar_written c) ih

/-! ## Reading -/

section

variable (rest : List Char)

/-- A character is read by its number. -/
theorem unicodeEscape_unit {ds : List Char} {n : Nat} (h : HexFour ds n)
    (hn : n < 0xd800 ∨ 0xdfff < n) : unicodeEscape (ds ++ rest) = .ok (Char.ofNat n, rest) := by
  have hlow : ¬(0xdc00 ≤ n ∧ n ≤ 0xdfff) := by omega
  have hplain : n < 0xd800 ∨ 0xdbff < n := by omega
  rw [unicodeEscape, hexEscape_append h]
  simp only [bind, Except.bind, if_neg hlow, if_pos hplain]
  rfl

/-- A character is read by its surrogates. -/
theorem unicodeEscape_pair {ds ds' : List Char} {high low : Nat} (hds : HexFour ds high)
    (hds' : HexFour ds' low) (hhigh : 0xd800 ≤ high ∧ high ≤ 0xdbff)
    (hlow : 0xdc00 ≤ low ∧ low ≤ 0xdfff) :
    unicodeEscape (ds ++ '\\' :: 'u' :: (ds' ++ rest)) =
      .ok (Char.ofNat ((high - 0xd800) * 0x400 + (low - 0xdc00) + 0x10000), rest) := by
  have hfirst : ¬(0xdc00 ≤ high ∧ high ≤ 0xdfff) := by omega
  have hpair : ¬(high < 0xd800 ∨ 0xdbff < high) := by omega
  have hsecond : ¬(low < 0xdc00 ∨ 0xdfff < low) := by omega
  rw [unicodeEscape, hexEscape_append hds]
  simp only [bind, Except.bind, if_neg hfirst, if_neg hpair, pairCharacter, if_true,
    hexEscape_append hds', if_neg hsecond]
  rfl

variable (fuel : Nat) (taken : List Char)

/-- A character is read back however it is written. -/
theorem stringTail_append {cs : List Char} {c : Char} (h : SpellsChar cs c) :
    stringTail (fuel + 1) taken (cs ++ rest) = stringTail fuel (c :: taken) rest := by
  cases h with
  | plain hquote hbackslash hprintable =>
    rw [List.singleton_append, stringTail, if_neg hprintable]
    · exact hquote
    · exact hbackslash
  | @short letter _ h =>
    have hletter : letter ≠ 'u' := by
      rintro rfl
      contradiction
    have hescape : escape (letter :: rest) = .ok (c, rest) := by rw [escape, if_neg hletter, h]
    show stringTail (fuel + 1) taken ('\\' :: letter :: rest) = _
    rw [stringTail, hescape]
    rfl
  | @unit ds n h hn =>
    have hescape : escape ('u' :: (ds ++ rest)) = .ok (Char.ofNat n, rest) := by
      rw [escape, if_pos rfl, unicodeEscape_unit rest h hn]
    show stringTail (fuel + 1) taken ('\\' :: 'u' :: (ds ++ rest)) = _
    rw [stringTail, hescape]
    rfl
  | @pair ds ds' high low hds hds' hhigh hlow =>
    have hcs : '\\' :: 'u' :: ds ++ '\\' :: 'u' :: ds' ++ rest =
        '\\' :: 'u' :: (ds ++ '\\' :: 'u' :: (ds' ++ rest)) := by simp
    rw [hcs, stringTail, escape, if_pos rfl, unicodeEscape_pair rest hds hds' hhigh hlow]
    rfl

theorem SpellsChar.length_pos {cs : List Char} {c : Char} (h : SpellsChar cs c) :
    0 < cs.length := by
  cases h <;> exact Nat.zero_lt_succ _

/-- A text is read up to the closing quote. -/
theorem stringTail_of_spells {cs text : List Char} (h : Spells cs text)
    (hfuel : cs.length < fuel) :
    stringTail fuel taken (cs ++ '"' :: rest) = .ok (taken.reverse ++ text, rest) := by
  induction h generalizing fuel taken with
  | nil =>
    obtain ⟨fuel, rfl⟩ := Nat.exists_eq_succ_of_ne_zero (Nat.ne_zero_of_lt hfuel)
    rw [List.append_nil]
    rfl
  | @cons cs more text c h hmore ih =>
    obtain ⟨fuel, rfl⟩ := Nat.exists_eq_succ_of_ne_zero (Nat.ne_zero_of_lt hfuel)
    have hpos := h.length_pos
    rw [List.length_append] at hfuel
    rw [List.append_assoc, stringTail_append _ fuel taken h, ih fuel (c :: taken) (by omega),
      List.reverse_cons, List.append_assoc, List.singleton_append]

/-- A string is read once its opening quote has been taken. -/
theorem string_of_spells {cs text : List Char} (h : Spells cs text) :
    string (cs ++ '"' :: rest) = .ok (text, rest) := by
  rw [string, stringTail_of_spells rest _ [] h, List.reverse_nil, List.nil_append]
  rw [List.length_append, List.length_cons]
  omega

end

/-! ## Skipping -/

/-- A character as it is, or an escape. -/
inductive IsPiece : List Char → Prop where
  | plain {c : Char} (hquote : c ≠ '"') (hbackslash : c ≠ '\\') (hprintable : ¬c.toNat < 0x20) :
    IsPiece [c]
  | short {letter c : Char} (h : simpleEscape? letter = some c) : IsPiece ['\\', letter]
  | unit {ds : List Char} {n : Nat} (h : HexFour ds n) : IsPiece ('\\' :: 'u' :: ds)

/-- The characters inside a string. -/
inductive IsQuotable : List Char → Prop where
  | nil : IsQuotable []
  | cons {cs more : List Char} (h : IsPiece cs) (hmore : IsQuotable more) : IsQuotable (cs ++ more)

/-- What is read can be skipped. -/
theorem Spells.isQuotable {cs text : List Char} (h : Spells cs text) : IsQuotable cs := by
  induction h with
  | nil => exact .nil
  | cons h hmore ih =>
    cases h with
    | plain hquote hbackslash hprintable => exact .cons (.plain hquote hbackslash hprintable) ih
    | short h => exact .cons (.short h) ih
    | unit h hn => exact .cons (.unit h) ih
    | pair hds hds' hhigh hlow =>
      rw [List.append_assoc]
      exact .cons (.unit hds) (.cons (.unit hds') ih)

/-- A piece of a string is passed over. -/
theorem skipString_piece {cs : List Char} (h : IsPiece cs) (fuel : Nat) (rest : List Char) :
    skipString (fuel + 1) (cs ++ rest) = skipString fuel rest := by
  cases h with
  | plain hquote hbackslash hprintable =>
    rw [List.singleton_append, skipString, if_neg hprintable]
    · exact hquote
    · intro cs hcs
      exact absurd hcs hbackslash
    · intro d cs hcs
      exact absurd hcs hbackslash
    · intro hcs
      exact absurd hcs hbackslash
  | @short letter c h =>
    have hletter : letter ≠ 'u' := by
      rintro rfl
      contradiction
    have hsome : (simpleEscape? letter).isSome := by rw [h]; rfl
    show skipString (fuel + 1) ('\\' :: letter :: rest) = _
    rw [skipString, if_pos hsome]
    exact hletter
  | @unit ds n h =>
    show skipString (fuel + 1) ('\\' :: 'u' :: (ds ++ rest)) = _
    rw [skipString, hexEscape_append h]
    rfl

/-- A string is skipped once its opening quote has been taken. -/
theorem skipString_append {cs : List Char} (h : IsQuotable cs) (rest : List Char) {fuel : Nat}
    (hfuel : cs.length < fuel) : skipString fuel (cs ++ '"' :: rest) = .ok rest := by
  induction h generalizing fuel with
  | nil =>
    obtain ⟨fuel, rfl⟩ := Nat.exists_eq_succ_of_ne_zero (Nat.ne_zero_of_lt hfuel)
    rfl
  | @cons cs more h hmore ih =>
    obtain ⟨fuel, rfl⟩ := Nat.exists_eq_succ_of_ne_zero (Nat.ne_zero_of_lt hfuel)
    have hpos : 0 < cs.length := by cases h <;> exact Nat.zero_lt_succ _
    rw [List.length_append] at hfuel
    rw [List.append_assoc, skipString_piece h]
    exact ih (by omega)

end PathSeal.Json
