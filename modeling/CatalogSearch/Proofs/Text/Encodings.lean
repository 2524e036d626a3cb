import CatalogSearch.Text.Base64Url
import CatalogSearch.Text.Utf8
import Mathlib.Data.List.Basic

/-!
# Text as bytes and bytes as text

Every string is read back from its bytes in UTF-8 (`Utf8.decode_encode`), and all bytes are read back
from their text in Base64 (`Base64Url.decode_encode`). Both readers go by one byte at a time, so each
rests on what one group does: the bytes of a character, or the characters of three bytes, of which
the last group has fewer.
-/

namespace CatalogSearch.Text

theorem toNat_ofNat {n : Nat} (h : n < 256) : (UInt8.ofNat n).toNat = n :=
  UInt8.toNat_ofNat_of_lt' h

/-! ### UTF-8 -/

namespace Utf8

theorem toList_loop_eq (bytes : ByteArray) (i : Nat) (read : List UInt8) :
    ByteArray.toList.loop bytes i read = read.reverse ++ bytes.data.toList.drop i := by
  fun_induction ByteArray.toList.loop bytes i read with
  | case1 i read hi ih =>
    have hlength : i < bytes.data.toList.length := hi
    have hbyte : bytes.get! i = bytes.data.toList[i] := by
      rw [ByteArray.get!, getElem!_pos bytes.data i hi, Array.getElem_toList]
    rw [ih, List.drop_eq_getElem_cons hlength, List.reverse_cons, List.append_assoc, hbyte,
      List.singleton_append]
  | case2 i read hi =>
    have hlength : bytes.data.toList.length ≤ i := Nat.not_lt.1 hi
    rw [List.drop_of_length_le hlength, List.append_nil]

theorem encode_ofList (cs : List Char) :
    encode (String.ofList cs) = cs.flatMap String.utf8EncodeChar := by
  rw [encode, String.toUTF8_eq_toByteArray, String.toByteArray_ofList, ByteArray.toList,
    toList_loop_eq, List.utf8Encode, List.data_toByteArray]
  rfl

section

variable {p : Pending} {b : UInt8} (h : p.low ≤ b ∧ b ≤ p.high) (pos : Nat) (bs : List UInt8)

include h

theorem decodeFrom_last (hneeded : p.needed = 1) :
    decodeFrom (some p) pos (b :: bs)
      = (decodeFrom none (pos + 1) bs).map (Char.ofNat (p.bits * 64 + (b.toNat - 0x80)) :: ·) := by
  rw [decodeFrom, if_pos h]
  exact if_pos hneeded

theorem decodeFrom_more (hneeded : p.needed ≠ 1) :
    decodeFrom (some p) pos (b :: bs)
      = decodeFrom (some ⟨p.lead, p.start, p.needed - 1, 0x80, 0xbf,
          p.bits * 64 + (b.toNat - 0x80)⟩) (pos + 1) bs := by
  rw [decodeFrom, if_pos h]
  exact if_neg hneeded

end

theorem between_ofNat {low high : UInt8} {n : Nat} (hn : n < 256)
    (h : low.toNat ≤ n ∧ n ≤ high.toNat) : low ≤ UInt8.ofNat n ∧ UInt8.ofNat n ≤ high := by
  rw [UInt8.le_iff_toNat_le, UInt8.le_iff_toNat_le, toNat_ofNat hn]
  exact h

theorem between_of_bits {n : Nat} (hn : n < 64) :
    (0x80 : UInt8) ≤ UInt8.ofNat (n + 128) ∧ UInt8.ofNat (n + 128) ≤ (0xbf : UInt8) :=
  between_ofNat (by omega) ⟨Nat.le_add_left 128 n, show n + 128 ≤ 191 by omega⟩

theorem decodeFrom_lead {n pos : Nat} (hn : n < 256) (hlow : 0x80 ≤ n) {p : Pending}
    (h : opens pos (UInt8.ofNat n) = some p) (bs : List UInt8) :
    decodeFrom none pos (UInt8.ofNat n :: bs) = decodeFrom (some p) (pos + 1) bs := by
  have hnot : ¬UInt8.ofNat n < 0x80 := by
    rw [UInt8.lt_iff_toNat_lt, toNat_ofNat hn]
    exact Nat.not_lt.2 hlow
  rw [decodeFrom, if_neg hnot, h]

section

variable {v : Nat} (pos : Nat) (bs : List UInt8)

theorem decodeFrom_one (hv : v ≤ 127) :
    decodeFrom none pos (UInt8.ofNat v :: bs)
      = (decodeFrom none (pos + 1) bs).map (Char.ofNat v :: ·) := by
  have hsmall : UInt8.ofNat v < 0x80 := by
    rw [UInt8.lt_iff_toNat_lt, toNat_ofNat (by omega)]
    exact Nat.lt_succ_of_le hv
  rw [decodeFrom, if_pos hsmall, toNat_ofNat (by omega)]

theorem decodeFrom_two (hlow : 127 < v) (hhigh : v ≤ 2047) :
    decodeFrom none pos (UInt8.ofNat (v / 64 % 32 + 192) :: UInt8.ofNat (v % 64 + 128) :: bs)
      = (decodeFrom none (pos + 2) bs).map (Char.ofNat v :: ·) := by
  have hopens : opens pos (UInt8.ofNat (v / 64 % 32 + 192))
      = some ⟨UInt8.ofNat (v / 64 % 32 + 192), pos, 1, 0x80, 0xbf, v / 64⟩ := by
    rw [opens, toNat_ofNat (by omega), if_pos (by omega),
      show v / 64 % 32 + 192 - 0xc0 = v / 64 by omega]
  have hvalue : v / 64 * 64 + (v % 64 + 128 - 0x80) = v := by omega
  rw [decodeFrom_lead (by omega) (by omega) hopens,
    decodeFrom_last (between_of_bits (by omega)) _ _ rfl, toNat_ofNat (by omega), hvalue]

/-- The bounds behind the first of three bytes leave room for the next one. -/
theorem exists_opens_three (hlow : 2047 < v) (hhigh : v ≤ 65535)
    (hvalid : v < 0xd800 ∨ 0xdfff < v) :
    ∃ low high : UInt8, opens pos (UInt8.ofNat (v / 4096 + 0xe0))
        = some ⟨UInt8.ofNat (v / 4096 + 0xe0), pos, 2, low, high, v / 4096⟩ ∧
      low.toNat ≤ v / 64 % 64 + 128 ∧ v / 64 % 64 + 128 ≤ high.toNat := by
  refine ⟨if v / 4096 + 0xe0 = 0xe0 then 0xa0 else 0x80,
    if v / 4096 + 0xe0 = 0xed then 0x9f else 0xbf, ?_, ?_, ?_⟩
  · rw [opens, toNat_ofNat (by omega), if_neg (by omega), if_pos (by omega), Nat.add_sub_cancel]
  · split
    · exact show 160 ≤ v / 64 % 64 + 128 by omega
    · exact show 128 ≤ v / 64 % 64 + 128 by omega
  · split
    · exact show v / 64 % 64 + 128 ≤ 159 by omega
    · exact show v / 64 % 64 + 128 ≤ 191 by omega

theorem decodeFrom_three (hlow : 2047 < v) (hhigh : v ≤ 65535)
    (hvalid : v < 0xd800 ∨ 0xdfff < v) :
    decodeFrom none pos (UInt8.ofNat (v / 4096 % 16 + 224) :: UInt8.ofNat (v / 64 % 64 + 128) ::
        UInt8.ofNat (v % 64 + 128) :: bs)
      = (decodeFrom none (pos + 3) bs).map (Char.ofNat v :: ·) := by
  obtain ⟨low, high, hopens, hbetween⟩ := exists_opens_three pos hlow hhigh hvalid
  have hlead : v / 4096 % 16 + 224 = v / 4096 + 0xe0 := by omega
  have hvalue : (v / 4096 * 64 + (v / 64 % 64 + 128 - 0x80)) * 64 + (v % 64 + 128 - 0x80) = v := by
    omega
  rw [hlead, decodeFrom_lead (by omega) (by omega) hopens,
    decodeFrom_more (between_ofNat (by omega) hbetween) _ _ (by simp),
    decodeFrom_last (between_of_bits (by omega)) _ _ rfl, toNat_ofNat (by omega),
    toNat_ofNat (by omega), hvalue]

theorem exists_opens_four (hlow : 65535 < v) (hhigh : v < 0x110000) :
    ∃ low high : UInt8, opens pos (UInt8.ofNat (v / 262144 + 0xf0))
        = some ⟨UInt8.ofNat (v / 262144 + 0xf0), pos, 3, low, high, v / 262144⟩ ∧
      low.toNat ≤ v / 4096 % 64 + 128 ∧ v / 4096 % 64 + 128 ≤ high.toNat := by
  refine ⟨if v / 262144 + 0xf0 = 0xf0 then 0x90 else 0x80,
    if v / 262144 + 0xf0 = 0xf4 then 0x8f else 0xbf, ?_, ?_, ?_⟩
  · rw [opens, toNat_ofNat (by omega), if_neg (by omega), if_neg (by omega), if_pos (by omega),
      Nat.add_sub_cancel]
  · split
    · exact show 144 ≤ v / 4096 % 64 + 128 by omega
    · exact show 128 ≤ v / 4096 % 64 + 128 by omega
  · split
    · exact show v / 4096 % 64 + 128 ≤ 143 by omega
    · exact show v / 4096 % 64 + 128 ≤ 191 by omega

theorem decodeFrom_four (hlow : 65535 < v) (hhigh : v < 0x110000) :
    decodeFrom none pos (UInt8.ofNat (v / 262144 % 8 + 240) :: UInt8.ofNat (v / 4096 % 64 + 128) ::
        UInt8.ofNat (v / 64 % 64 + 128) :: UInt8.ofNat (v % 64 + 128) :: bs)
      = (decodeFrom none (pos + 4) bs).map (Char.ofNat v :: ·) := by
  obtain ⟨low, high, hopens, hbetween⟩ := exists_opens_four pos hlow hhigh
  have hlead : v / 262144 % 8 + 240 = v / 262144 + 0xf0 := by omega
  have hvalue : ((v / 262144 * 64 + (v / 4096 % 64 + 128 - 0x80)) * 64
      + (v / 64 % 64 + 128 - 0x80)) * 64 + (v % 64 + 128 - 0x80) = v := by omega
  rw [hlead, decodeFrom_lead (by omega) (by omega) hopens,
    decodeFrom_more (between_ofNat (by omega) hbetween) _ _ (by simp),
    decodeFrom_more (between_of_bits (by omega)) _ _ (by simp),
    decodeFrom_last (between_of_bits (by omega)) _ _ rfl, toNat_ofNat (by omega),
    toNat_ofNat (by omega), toNat_ofNat (by omega), hvalue]

end

theorem exists_decodeFrom_eq (c : Char) (pos : Nat) (bs : List UInt8) :
    ∃ next, decodeFrom none pos (String.utf8EncodeChar c ++ bs)
      = (decodeFrom none next bs).map (c :: ·) := by
  have hvalid : c.val.toNat < 0xd800 ∨ 0xdfff < c.val.toNat ∧ c.val.toNat < 0x110000 := c.valid
  have hc : Char.ofNat c.val.toNat = c := Char.ofNat_toNat c
  rw [String.utf8EncodeChar]
  generalize c.val.toNat = v at hvalid hc
  subst hc
  split_ifs with hone htwo hthree
  · exact ⟨_, decodeFrom_one pos bs hone⟩
  · exact ⟨_, decodeFrom_two pos bs (Nat.not_le.1 hone) htwo⟩
  · exact ⟨_, decodeFrom_three pos bs (Nat.not_le.1 htwo) hthree (by omega)⟩
  · exact ⟨_, decodeFrom_four pos bs (Nat.not_le.1 hthree) (by omega)⟩

theorem decodeFrom_flatMap (cs : List Char) (pos : Nat) :
    decodeFrom none pos (cs.flatMap String.utf8EncodeChar) = .ok cs := by
  induction cs generalizing pos with
  | nil => rfl
  | cons c cs ih =>
    obtain ⟨next, hnext⟩ := exists_decodeFrom_eq c pos (cs.flatMap String.utf8EncodeChar)
    rw [List.flatMap_cons, hnext, ih]
    rfl

theorem decode_encode (s : String) : decode (encode s) = .ok s := by
  rw [← String.ofList_toList (s := s), encode_ofList, decode, decodeFrom_flatMap]
  rfl

theorem encode_ofList_of_ascii {cs : List Char} (h : ∀ c ∈ cs, c.toNat < 128) :
    encode (String.ofList cs) = cs.map fun c => UInt8.ofNat c.toNat := by
  rw [encode_ofList]
  induction cs with
  | nil => rfl
  | cons c cs ih =>
    have hc : c.val.toNat ≤ 127 := Nat.le_of_lt_succ (h c List.mem_cons_self)
    rw [List.flatMap_cons, String.utf8EncodeChar, List.map_cons,
      ih fun d hd => h d (List.mem_cons_of_mem c hd), if_pos hc]
    rfl

end Utf8

/-! ### Base64 -/

namespace Base64Url

def code (n : Nat) : UInt8 := UInt8.ofNat (symbol n).toNat

theorem ofNat_symbol (n : Nat) : UInt8.ofNat (symbol n).toNat = code n := rfl

theorem value?_code : ∀ n < 64, value? (code n) = some n := by decide

theorem code_ne_pad : ∀ n < 64, code n ≠ 61 := by decide

theorem code_ne_point : ∀ n < 64, code n ≠ 46 := by decide

theorem symbol_lt : ∀ n < 64, (symbol n).toNat < 128 := by decide

theorem exists_symbol_of_mem {bs : List UInt8} {c : Char} (h : c ∈ encode bs) :
    ∃ n < 64, c = symbol n := by
  fun_induction encode bs with
  | case1 a b d rest n ih =>
    have ha := a.toNat_lt
    have hb := b.toNat_lt
    have hd := d.toNat_lt
    simp only [List.mem_cons] at h
    obtain rfl | rfl | rfl | rfl | h := h
    · exact ⟨_, by omega, rfl⟩
    · exact ⟨_, Nat.mod_lt _ (by decide), rfl⟩
    · exact ⟨_, Nat.mod_lt _ (by decide), rfl⟩
    · exact ⟨_, Nat.mod_lt _ (by decide), rfl⟩
    · exact ih h
  | case2 a b n =>
    have ha := a.toNat_lt
    have hb := b.toNat_lt
    simp only [List.mem_cons, List.not_mem_nil, or_false] at h
    obtain rfl | rfl | rfl := h
    · exact ⟨_, by omega, rfl⟩
    · exact ⟨_, Nat.mod_lt _ (by decide), rfl⟩
    · exact ⟨_, Nat.mod_lt _ (by decide), rfl⟩
  | case3 a =>
    have ha := a.toNat_lt
    simp only [List.mem_cons, List.not_mem_nil, or_false] at h
    obtain rfl | rfl := h
    · exact ⟨_, by omega, rfl⟩
    · exact ⟨_, Nat.mod_lt _ (by decide), rfl⟩
  | case4 => cases h

section

variable {v : Nat} (hv : v < 64) (left pads : Nat) (bs : List UInt8)

include hv

/-! One character, by its place in a group of four. -/

theorem decodeFrom_first :
    decodeFrom ⟨0, left, pads⟩ (code v :: bs) = decodeFrom ⟨1, v, 0⟩ bs := by
  rw [decodeFrom, if_neg (code_ne_pad v hv), value?_code v hv]
  rfl

theorem decodeFrom_second :
    decodeFrom ⟨1, left, pads⟩ (code v :: bs)
      = (decodeFrom ⟨2, v % 16, 0⟩ bs).map (UInt8.ofNat (left * 4 + v / 16) :: ·) := by
  rw [decodeFrom, if_neg (code_ne_pad v hv), value?_code v hv]
  rfl

theorem decodeFrom_third :
    decodeFrom ⟨2, left, pads⟩ (code v :: bs)
      = (decodeFrom ⟨3, v % 4, 0⟩ bs).map (UInt8.ofNat (left * 16 + v / 4) :: ·) := by
  rw [decodeFrom, if_neg (code_ne_pad v hv), value?_code v hv]
  rfl

theorem decodeFrom_fourth :
    decodeFrom ⟨3, left, pads⟩ (code v :: bs)
      = (decodeFrom ⟨0, 0, 0⟩ bs).map (UInt8.ofNat (left * 64 + v) :: ·) := by
  rw [decodeFrom, if_neg (code_ne_pad v hv), value?_code v hv]
  rfl

end

theorem ofNat_eq {n : Nat} {b : UInt8} (h : n = b.toNat) : UInt8.ofNat n = b := by
  rw [h, UInt8.ofNat_toNat]

theorem decodeFrom_encode (bs : List UInt8) :
    decodeFrom ⟨0, 0, 0⟩ (((encode bs).map fun c => UInt8.ofNat c.toNat) ++
      List.replicate ((4 - (encode bs).length % 4) % 4) 61) = some bs := by
  -- three bytes give four characters, so the padding is that of the bytes behind them
  fun_induction encode bs with
  | case1 a b c rest n ih =>
    have ha := a.toNat_lt
    have hb := b.toNat_lt
    have hc := c.toNat_lt
    have hn : n = a.toNat * 65536 + b.toNat * 256 + c.toNat := rfl
    have hfirst : UInt8.ofNat (n / 262144 * 4 + n / 4096 % 64 / 16) = a := ofNat_eq (by omega)
    have hsecond : UInt8.ofNat (n / 4096 % 64 % 16 * 16 + n / 64 % 64 / 4) = b :=
      ofNat_eq (by omega)
    have hthird : UInt8.ofNat (n / 64 % 64 % 4 * 64 + n % 64) = c := ofNat_eq (by omega)
    have hlength : (encode rest).length + 1 + 1 + 1 + 1 = (encode rest).length + 4 := rfl
    simp only [List.map_cons, List.cons_append, List.length_cons, ofNat_symbol]
    rw [hlength, Nat.add_mod_right, decodeFrom_first (by omega), decodeFrom_second (by omega),
      decodeFrom_third (by omega), decodeFrom_fourth (by omega), ih, hfirst, hsecond, hthird]
    rfl
  | case2 a b n =>
    have ha := a.toNat_lt
    have hb := b.toNat_lt
    have hn : n = a.toNat * 1024 + b.toNat * 4 := rfl
    have hfirst : UInt8.ofNat (n / 4096 * 4 + n / 64 % 64 / 16) = a := ofNat_eq (by omega)
    have hsecond : UInt8.ofNat (n / 64 % 64 % 16 * 16 + n % 64 / 4) = b := ofNat_eq (by omega)
    simp only [List.map_cons, List.cons_append, ofNat_symbol]
    rw [decodeFrom_first (by omega), decodeFrom_second (by omega), decodeFrom_third (by omega),
      hfirst, hsecond]
    rfl
  | case3 a =>
    have ha := a.toNat_lt
    have hfirst : UInt8.ofNat (a.toNat / 4 * 4 + a.toNat * 16 % 64 / 16) = a :=
      ofNat_eq (by omega)
    simp only [List.map_cons, List.cons_append, ofNat_symbol]
    rw [decodeFrom_first (by omega), decodeFrom_second (by omega), hfirst]
    rfl
  | case4 => rfl

theorem encode_ofList (bs : List UInt8) :
    Utf8.encode (String.ofList (encode bs)) = (encode bs).map fun c => UInt8.ofNat c.toNat := by
  apply Utf8.encode_ofList_of_ascii
  intro c hc
  obtain ⟨n, hn, rfl⟩ := exists_symbol_of_mem hc
  exact symbol_lt n hn

theorem decode_encode (bs : List UInt8) :
    decode (Utf8.encode (String.ofList (encode bs))) = some bs := by
  rw [decode, encode_ofList, List.length_map, decodeFrom_encode]

theorem point_not_mem (bs : List UInt8) : 46 ∉ Utf8.encode (String.ofList (encode bs)) := by
  rw [encode_ofList]
  intro hmem
  obtain ⟨c, hc, hpoint⟩ := List.mem_map.1 hmem
  obtain ⟨n, hn, rfl⟩ := exists_symbol_of_mem hc
  exact code_ne_point n hn hpoint

end Base64Url

end CatalogSearch.Text
