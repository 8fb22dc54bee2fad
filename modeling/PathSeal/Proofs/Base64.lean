import PathSeal.Base64
import PathSeal.Proofs.Bytes

/-!
# PathSeal.Proofs.Base64

A text is read as a buffer exactly if it is the buffer's written form
(`decode_ofString_eq_ok_iff`): each buffer is read back, and none has a second form.

The proof goes by groups of four symbols. The last one is looked at by a scan that tells
symbols from padding; what it gives says what was scanned (`of_scanTail`).
-/

namespace PathSeal.Base64

theorem exists_of_bind {α β : Type} {x : Except Fault α} {next : α → Except Fault β} {b : β}
    (h : (x >>= next) = .ok b) : ∃ a, x = .ok a ∧ next a = .ok b := by
  cases x with
  | error e => contradiction
  | ok a => exact ⟨a, rfl, h⟩

/-! ## Symbols -/

/-- Exactly the symbols of numbers below 64 are read as numbers. -/
theorem digit?_eq_some_iff (b : UInt8) (n : Nat) : digit? b = some n ↔ n < 64 ∧ symbol n = b := by
  have hread : ∀ k < 256, ∀ n ∈ digit? (UInt8.ofNat k), n < 64 ∧ symbol n = UInt8.ofNat k := by
    decide +kernel
  have hwritten : ∀ n < 64, digit? (symbol n) = some n := by decide
  constructor
  · intro h
    have hb := hread b.toNat b.toNat_lt n
    rw [UInt8.ofNat_toNat] at hb
    exact hb h
  · rintro ⟨hlt, rfl⟩
    exact hwritten n hlt

theorem symbol_ne_pad {n : Nat} (h : n < 64) : symbol n ≠ pad := by
  have hall : ∀ n < 64, symbol n ≠ pad := by decide
  exact hall n h

/-- A number is read at any offset exactly from its symbol. -/
theorem digitAt_eq_ok_iff (offset : Nat) (b : UInt8) (n : Nat) :
    digitAt offset b = .ok n ↔ n < 64 ∧ symbol n = b := by
  rw [← digit?_eq_some_iff, digitAt]
  cases digit? b with
  | none => simp
  | some found => simp

/-! ## Groups -/

/-- The numbers of three bytes give the bytes back. -/
theorem threeBytes_numbers (a b c : UInt8) :
    threeBytes (a.toNat / 4) (a.toNat % 4 * 16 + b.toNat / 16) (b.toNat % 16 * 4 + c.toNat / 64)
      (c.toNat % 64) = [a, b, c] := by
  have ha := a.toNat_lt
  have hb := b.toNat_lt
  have hc := c.toNat_lt
  have hfirst : a.toNat / 4 * 4 + (a.toNat % 4 * 16 + b.toNat / 16) / 16 = a.toNat := by omega
  have hsecond : (a.toNat % 4 * 16 + b.toNat / 16) % 16 * 16 +
      (b.toNat % 16 * 4 + c.toNat / 64) / 4 = b.toNat := by omega
  have hthird : (b.toNat % 16 * 4 + c.toNat / 64) % 4 * 64 + c.toNat % 64 = c.toNat := by omega
  rw [threeBytes, hfirst, hsecond, hthird, UInt8.ofNat_toNat, UInt8.ofNat_toNat, UInt8.ofNat_toNat]

section

variable {x y z w : Nat} (hx : x < 64) (hy : y < 64) (hz : z < 64) (hw : w < 64)

include hx hy hz

/-- Four numbers are written as the three bytes that they make. -/
theorem encode_threeBytes (hw : w < 64) (rest : Bytes) :
    encode (threeBytes x y z w ++ rest) =
      symbol x :: symbol y :: symbol z :: symbol w :: encode rest := by
  have hfirst : (x * 4 + y / 16) % 2 ^ 8 / 4 = x := by omega
  have hsecond : (x * 4 + y / 16) % 2 ^ 8 % 4 * 16 + (y % 16 * 16 + z / 4) % 2 ^ 8 / 16 = y := by
    omega
  have hthird : (y % 16 * 16 + z / 4) % 2 ^ 8 % 16 * 4 + (z % 4 * 64 + w) % 2 ^ 8 / 64 = z := by
    omega
  have hfourth : (z % 4 * 64 + w) % 2 ^ 8 % 64 = w := by omega
  simp only [threeBytes, List.cons_append, List.nil_append, encode, UInt8.toNat_ofNat', hfirst,
    hsecond, hthird, hfourth]

theorem encode_take_two (hbits : z % 4 = 0) :
    encode ((threeBytes x y z 0).take 2) = [symbol x, symbol y, symbol z, pad] := by
  have hfirst : (x * 4 + y / 16) % 2 ^ 8 / 4 = x := by omega
  have hsecond : (x * 4 + y / 16) % 2 ^ 8 % 4 * 16 + (y % 16 * 16 + z / 4) % 2 ^ 8 / 16 = y := by
    omega
  have hthird : (y % 16 * 16 + z / 4) % 2 ^ 8 % 16 * 4 = z := by omega
  simp only [threeBytes, List.take, encode, UInt8.toNat_ofNat', hfirst, hsecond, hthird]

omit hz

theorem encode_take_one (hbits : y % 16 = 0) :
    encode ((threeBytes x y 0 0).take 1) = [symbol x, symbol y, pad, pad] := by
  have hfirst : (x * 4 + y / 16) % 2 ^ 8 / 4 = x := by omega
  have hsecond : (x * 4 + y / 16) % 2 ^ 8 % 4 * 16 = y := by omega
  simp only [threeBytes, List.take, encode, UInt8.toNat_ofNat', hfirst, hsecond]

end

/-! ## The last group -/

/-- A scan that succeeds has gone through symbols and then padding. -/
theorem of_scanTail {offset i : Nat} {firstPad : Option Nat} {bs : Bytes}
    {symbols : List (UInt8 × Nat)} {pads : Nat}
    (h : scanTail offset i firstPad bs = .ok (symbols, pads)) :
    bs = symbols.map (·.1) ++ List.replicate pads pad ∧
      (∀ s ∈ symbols, s.2 < 64 ∧ symbol s.2 = s.1) ∧ (firstPad.isSome → symbols = []) := by
  induction bs generalizing i firstPad symbols pads with
  | nil =>
    obtain ⟨rfl, rfl⟩ := Prod.mk.inj (Except.ok.inj h)
    simp
  | cons b bs ih =>
    unfold scanTail at h
    by_cases hb : b = pad
    · rw [if_pos hb] at h
      split at h
      · contradiction
      · obtain ⟨result, hrest, h⟩ := exists_of_bind h
        obtain ⟨rfl, rfl⟩ := Prod.mk.inj (Except.ok.inj h)
        obtain ⟨hbs, -, hnone⟩ := ih hrest
        have hsymbols : result.1 = [] := hnone (by simp)
        rw [hsymbols] at hbs ⊢
        simp [hb, hbs, List.replicate_succ]
    · rw [if_neg hb] at h
      cases firstPad with
      | some first => contradiction
      | none =>
        obtain ⟨n, hdigit, h⟩ := exists_of_bind h
        obtain ⟨result, hrest, h⟩ := exists_of_bind h
        obtain ⟨rfl, rfl⟩ := Prod.mk.inj (Except.ok.inj h)
        obtain ⟨hbs, hall, -⟩ := ih hrest
        have hn := (digitAt_eq_ok_iff (offset + i) b n).mp hdigit
        simp only [hbs, List.map_cons, List.cons_append, List.forall_mem_cons, true_and]
        exact ⟨⟨hn, hall⟩, by simp⟩

/-- A symbol is scanned, if there was no padding before it. -/
theorem scanTail_symbol {n : Nat} (h : n < 64) (offset i : Nat) (bs : Bytes) :
    scanTail offset i none (symbol n :: bs) =
      (scanTail offset (i + 1) none bs).map fun r => ((symbol n, n) :: r.1, r.2) := by
  have hdigit : digitAt (offset + i) (symbol n) = .ok n := (digitAt_eq_ok_iff ..).mpr ⟨h, rfl⟩
  rw [scanTail, if_neg (symbol_ne_pad h)]
  simp only [hdigit, bind, Except.bind]
  cases scanTail offset (i + 1) none bs with
  | error e => rfl
  | ok r => rfl

/-- A last group that is read is the written form of what is read. -/
theorem eq_encode_of_decodeTail {offset : Nat} {cs bs : Bytes} (hlen : cs.length ≤ 4)
    (h : decodeTail offset cs = .ok bs) : cs = encode bs := by
  rw [decodeTail] at h
  by_cases hnil : cs = []
  · rw [if_pos hnil] at h
    rw [← Except.ok.inj h, hnil]
    rfl
  · rw [if_neg hnil] at h
    obtain ⟨⟨symbols, pads⟩, hscan, h⟩ := exists_of_bind h
    obtain ⟨hcs, hall, -⟩ := of_scanTail hscan
    have hsum : symbols.length + pads ≤ 4 := by simpa [hcs] using hlen
    simp only [bind, Except.bind, throw, throwThe, MonadExceptOf.throw, pure, Except.pure] at h
    split at h
    · contradiction
    split at h
    · contradiction
    next hlong hmod =>
    -- Two to four symbols with padding up to four.
    match symbols with
    | [(_, x), (_, y)] =>
      simp only [List.forall_mem_cons] at hall
      obtain ⟨⟨hx, rfl⟩, ⟨hy, rfl⟩, -⟩ := hall
      have hpads : pads = 2 := by simp at hmod hsum; omega
      dsimp only at h
      split at h
      · contradiction
      next hbits =>
      rw [← Except.ok.inj h, encode_take_one hx hy (by omega), hcs, hpads]
      rfl
    | [(_, x), (_, y), (_, z)] =>
      simp only [List.forall_mem_cons] at hall
      obtain ⟨⟨hx, rfl⟩, ⟨hy, rfl⟩, ⟨hz, rfl⟩, -⟩ := hall
      have hpads : pads = 1 := by simp at hmod hsum; omega
      dsimp only at h
      split at h
      · contradiction
      next hbits =>
      rw [← Except.ok.inj h, encode_take_two hx hy hz (by omega), hcs, hpads]
      rfl
    | (_, x) :: (_, y) :: (_, z) :: (_, w) :: more =>
      have hmore : more = [] ∧ pads = 0 := by
        simp at hsum
        exact ⟨List.length_eq_zero_iff.mp (by omega), by omega⟩
      obtain ⟨rfl, rfl⟩ := hmore
      simp only [List.forall_mem_cons] at hall
      obtain ⟨⟨hx, rfl⟩, ⟨hy, rfl⟩, ⟨hz, rfl⟩, ⟨hw, rfl⟩, -⟩ := hall
      have hencode := encode_threeBytes hx hy hz hw []
      rw [List.append_nil] at hencode
      rw [← Except.ok.inj h, hencode, hcs]
      rfl
    | [] => simp at hlong
    | [_] => simp at hlong

section

variable {x y z w : Nat} (hx : x < 64) (hy : y < 64) (offset : Nat)

include hx hy

/-- Two symbols with padding after them are read, if no bits are left over. -/
theorem decodeTail_two (hbits : y % 16 = 0) :
    decodeTail offset [symbol x, symbol y, pad, pad] = .ok ((threeBytes x y 0 0).take 1) := by
  have hpads : scanTail offset 2 none [pad, pad] = .ok ([], 2) := rfl
  rw [decodeTail, if_neg (List.cons_ne_nil _ _), scanTail_symbol hx, scanTail_symbol hy, hpads]
  simp [Except.map, bind, Except.bind, hbits]
  rfl

theorem decodeTail_three (hz : z < 64) (hbits : z % 4 = 0) :
    decodeTail offset [symbol x, symbol y, symbol z, pad] = .ok ((threeBytes x y z 0).take 2) := by
  have hpads : scanTail offset 3 none [pad] = .ok ([], 1) := rfl
  rw [decodeTail, if_neg (List.cons_ne_nil _ _), scanTail_symbol hx, scanTail_symbol hy,
    scanTail_symbol hz, hpads]
  simp [Except.map, bind, Except.bind, hbits]
  rfl

theorem decodeTail_four (hz : z < 64) (hw : w < 64) :
    decodeTail offset [symbol x, symbol y, symbol z, symbol w] = .ok (threeBytes x y z w) := by
  have hend : scanTail offset 4 none [] = .ok ([], 0) := rfl
  rw [decodeTail, if_neg (List.cons_ne_nil _ _), scanTail_symbol hx, scanTail_symbol hy,
    scanTail_symbol hz, scanTail_symbol hw, hend]
  simp [Except.map, bind, Except.bind]
  rfl

end

/-! ## All groups -/

/-- Up to four characters are one group. -/
theorem decodeGroups_of_length_le (offset : Nat) {cs : Bytes} (h : cs.length ≤ 4) :
    decodeGroups offset cs = decodeTail offset cs := by
  match cs with
  | [] | [_] | [_, _] | [_, _, _] | [_, _, _, _] => rfl
  | _ :: _ :: _ :: _ :: _ :: rest =>
    simp only [List.length_cons] at h
    omega

/-- Groups that are read are the written form of what is read. -/
theorem eq_encode_of_decodeGroups {offset : Nat} {cs bs : Bytes}
    (h : decodeGroups offset cs = .ok bs) : cs = encode bs := by
  induction offset, cs using decodeGroups.induct generalizing bs with
  | case1 offset a b c d e rest ih =>
    rw [decodeGroups] at h
    obtain ⟨x, hfirst, h⟩ := exists_of_bind h
    obtain ⟨y, hsecond, h⟩ := exists_of_bind h
    obtain ⟨z, hthird, h⟩ := exists_of_bind h
    obtain ⟨w, hfourth, h⟩ := exists_of_bind h
    obtain ⟨more, hmore, hbs⟩ := exists_of_bind h
    obtain ⟨hx, rfl⟩ := (digitAt_eq_ok_iff ..).mp hfirst
    obtain ⟨hy, rfl⟩ := (digitAt_eq_ok_iff ..).mp hsecond
    obtain ⟨hz, rfl⟩ := (digitAt_eq_ok_iff ..).mp hthird
    obtain ⟨hw, rfl⟩ := (digitAt_eq_ok_iff ..).mp hfourth
    rw [← Except.ok.inj hbs, encode_threeBytes hx hy hz hw, ← ih hmore]
  | case2 offset cs hshort =>
    have hlen : cs.length ≤ 4 := by
      match cs with
      | [] | [_] | [_, _] | [_, _, _] | [_, _, _, _] => simp
      | a :: b :: c :: d :: e :: rest => exact absurd rfl (hshort a b c d e rest)
    rw [decodeGroups_of_length_le offset hlen] at h
    exact eq_encode_of_decodeTail hlen h

/-- A written buffer is read back. -/
theorem decodeGroups_encode (offset : Nat) (bs : Bytes) :
    decodeGroups offset (encode bs) = .ok bs := by
  induction bs using encode.induct generalizing offset with
  | case1 => rfl
  | case2 a =>
    have ha := a.toNat_lt
    have hbyte := congrArg (List.take 1) (threeBytes_numbers a 0 0)
    rw [encode, decodeGroups_of_length_le offset (by simp),
      decodeTail_two (by omega) (by omega) offset (by omega)]
    exact congrArg Except.ok hbyte
  | case3 a b =>
    have ha := a.toNat_lt
    have hb := b.toNat_lt
    have hbytes := congrArg (List.take 2) (threeBytes_numbers a b 0)
    rw [encode, decodeGroups_of_length_le offset (by simp),
      decodeTail_three (by omega) (by omega) offset (by omega) (by omega)]
    exact congrArg Except.ok hbytes
  | case4 a b c rest ih =>
    have ha := a.toNat_lt
    have hb := b.toNat_lt
    have hc := c.toNat_lt
    have hx : a.toNat / 4 < 64 := by omega
    have hy : a.toNat % 4 * 16 + b.toNat / 16 < 64 := by omega
    have hz : b.toNat % 16 * 4 + c.toNat / 64 < 64 := by omega
    have hw : c.toNat % 64 < 64 := by omega
    have hbytes := threeBytes_numbers a b c
    rw [encode]
    cases hrest : encode rest with
    | nil =>
      have hread : Except.ok rest = Except.ok (ε := Fault) [] := by
        rw [← ih 0, hrest]
        rfl
      rw [decodeGroups_of_length_le offset (by simp), decodeTail_four hx hy offset hz hw, hbytes,
        Except.ok.inj hread]
    | cons e more =>
      rw [decodeGroups, ← hrest, ih, (digitAt_eq_ok_iff ..).mpr ⟨hx, rfl⟩,
        (digitAt_eq_ok_iff ..).mpr ⟨hy, rfl⟩, (digitAt_eq_ok_iff ..).mpr ⟨hz, rfl⟩,
        (digitAt_eq_ok_iff ..).mpr ⟨hw, rfl⟩]
      exact congrArg (fun group => Except.ok (group ++ rest)) hbytes

/-! ## Whole texts -/

/-- The written form comes in groups of four. -/
theorem length_encode_mod (bs : Bytes) : (encode bs).length % 4 = 0 := by
  induction bs using encode.induct with
  | case1 => rfl
  | case2 a => simp [encode]
  | case3 a b => simp [encode]
  | case4 a b c rest ih =>
    simp only [encode, List.length_cons]
    omega

/-- Characters are read as a buffer exactly if they are the buffer's written form. -/
theorem decode_eq_ok_iff (cs bs : Bytes) : decode cs = .ok bs ↔ cs = encode bs := by
  constructor
  · intro h
    rw [decode] at h
    split at h
    · next last hlast =>
      split at h
      · contradiction
      · exact eq_encode_of_decodeGroups h
    · next hnil =>
      rw [List.getLast?_eq_none_iff.mp hnil, ← Except.ok.inj h]
      rfl
  · rintro rfl
    have hgroups := length_encode_mod bs
    cases hlast : (encode bs).getLast? with
    | some last =>
      rw [decode, hlast]
      dsimp only
      rw [if_neg (by omega), decodeGroups_encode]
    | none =>
      have hread := decodeGroups_encode 0 bs
      rw [List.getLast?_eq_none_iff.mp hlast] at hread
      rw [decode, hlast]
      exact hread

/-- A written form has symbols and padding only. -/
theorem of_mem_encode {bs : Bytes} {b : UInt8} (h : b ∈ encode bs) :
    b = pad ∨ ∃ n < 64, b = symbol n := by
  have hbyte (a : UInt8) : a.toNat < 256 := a.toNat_lt
  have hindex {n : Nat} (hn : n < 64) : symbol n = pad ∨ ∃ m < 64, symbol n = symbol m :=
    .inr ⟨n, hn, rfl⟩
  induction bs using encode.induct with
  | case1 => simp [encode] at h
  | case2 a =>
    have ha := hbyte a
    simp only [encode, List.mem_cons, List.not_mem_nil, or_false] at h
    rcases h with rfl | rfl | rfl | rfl
    · exact hindex (by omega)
    · exact hindex (by omega)
    · exact .inl rfl
    · exact .inl rfl
  | case3 a b =>
    have ha := hbyte a
    have hb := hbyte b
    simp only [encode, List.mem_cons, List.not_mem_nil, or_false] at h
    rcases h with rfl | rfl | rfl | rfl
    · exact hindex (by omega)
    · exact hindex (by omega)
    · exact hindex (by omega)
    · exact .inl rfl
  | case4 a b c rest ih =>
    have ha := hbyte a
    have hb := hbyte b
    have hc := hbyte c
    simp only [encode, List.mem_cons] at h
    rcases h with rfl | rfl | rfl | rfl | h
    · exact hindex (by omega)
    · exact hindex (by omega)
    · exact hindex (by omega)
    · exact hindex (by omega)
    · exact ih h

theorem lt_of_mem_encode {bs : Bytes} {b : UInt8} (h : b ∈ encode bs) : b.toNat < 128 := by
  have hsymbol : ∀ n < 64, (symbol n).toNat < 128 := by decide
  rcases of_mem_encode h with rfl | ⟨n, hn, rfl⟩
  · decide
  · exact hsymbol n hn

theorem ofString_encodeString (bs : Bytes) : Bytes.ofString (encodeString bs) = encode bs := by
  have hascii : ∀ n < 128, String.utf8EncodeChar (Char.ofNat n) = [UInt8.ofNat n] := by decide
  have hbyte : ∀ b ∈ encode bs, String.utf8EncodeChar (Char.ofNat b.toNat) = [b] := by
    intro b hb
    rw [hascii b.toNat (lt_of_mem_encode hb), UInt8.ofNat_toNat]
  rw [Bytes.ofString, encodeString, String.toUTF8, String.toByteArray_ofList, List.utf8Encode,
    List.flatMap_map, List.flatMap_def, List.map_congr_left hbyte]
  simp [← List.flatMap_def]

/-- A text is read as a buffer exactly if it is the buffer's written form. -/
theorem decode_ofString_eq_ok_iff (text : String) (bs : Bytes) :
    decode (Bytes.ofString text) = .ok bs ↔ text = encodeString bs := by
  rw [decode_eq_ok_iff, ← ofString_encodeString]
  constructor
  · intro h
    have hread := (Bytes.toString?_eq_some_iff _ text).mpr h
    rw [(Bytes.toString?_eq_some_iff _ (encodeString bs)).mpr rfl] at hread
    exact (Option.some.inj hread).symm
  · rintro rfl
    rfl

end PathSeal.Base64
