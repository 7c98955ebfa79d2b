import Mathlib.Data.List.Basic
/-!
# Base64

Bytes written as characters of six bits each, and two readers of such a text. `forgivingDecode`
follows the rules of the web: white space is skipped and everything else has to be in order.
`lenientDecode` looks at the low bytes of code units, takes what it can use and stops at the first
padding sign. Both read back what `base64Encode` writes.
-/

namespace MultiUserChat

/-- The padding sign. -/
abbrev paddingSign : Nat := 0x3d

/-- The character for six bits. -/
def base64Character (sextet : Nat) : Nat :=
  if sextet < 26 then sextet + 0x41
  else if sextet < 52 then sextet - 26 + 0x61
  else if sextet < 62 then sextet - 52 + 0x30
  else if sextet = 62 then 0x2b
  else 0x2f

/-- The six bits of a character. -/
def base64Sextet (point : Nat) : Option Nat :=
  if 0x41 ≤ point ∧ point ≤ 0x5a then some (point - 0x41)
  else if 0x61 ≤ point ∧ point ≤ 0x7a then some (point - 0x61 + 26)
  else if 0x30 ≤ point ∧ point ≤ 0x39 then some (point - 0x30 + 52)
  else if point = 0x2b then some 62
  else if point = 0x2f then some 63
  else none

/-- The six bits of a character, where the signs of the alphabet for addresses count as well. -/
def lenientSextet (point : Nat) : Option Nat :=
  if point = 0x2d then some 62
  else if point = 0x5f then some 63
  else base64Sextet point

/-- The groups of six bits of some bytes; the last one is filled up with zeros. -/
def sextets : List UInt8 → List Nat
  | first :: second :: third :: bytes =>
    first.toNat / 4 :: (first.toNat % 4 * 16 + second.toNat / 16) ::
      (second.toNat % 16 * 4 + third.toNat / 64) :: third.toNat % 64 :: sextets bytes
  | [first, second] =>
    [first.toNat / 4, first.toNat % 4 * 16 + second.toNat / 16, second.toNat % 16 * 4]
  | [first] => [first.toNat / 4, first.toNat % 4 * 16]
  | [] => []

/-- The bytes of some groups of six bits; what does not fill a byte is dropped. -/
def octets : List Nat → List UInt8
  | first :: second :: third :: fourth :: rest =>
    UInt8.ofNat (first * 4 + second / 16) :: UInt8.ofNat (second % 16 * 16 + third / 4) ::
      UInt8.ofNat (third % 4 * 64 + fourth) :: octets rest
  | [first, second, third] =>
    [UInt8.ofNat (first * 4 + second / 16), UInt8.ofNat (second % 16 * 16 + third / 4)]
  | [first, second] => [UInt8.ofNat (first * 4 + second / 16)]
  | _ => []

/-- The text that denotes some bytes. -/
def base64Encode (bytes : List UInt8) : List Nat :=
  (sextets bytes).map base64Character ++ List.replicate ((3 - bytes.length % 3) % 3) paddingSign

/-- White space that a reader skips. -/
def asciiBlank (point : Nat) : Bool := point ∈ [0x9, 0xa, 0xc, 0xd, 0x20]

/-- The text without the padding at the end of its last group of four. -/
def unpadded (text : List Nat) : List Nat :=
  if text.length % 4 = 0 then
    if text.drop (text.length - 2) = [paddingSign, paddingSign] then text.dropLast.dropLast
    else if text.getLast? = some paddingSign then text.dropLast
    else text
  else text

/-- Read a text by the rules of the web. -/
def forgivingDecode (text : List Nat) : Option (List UInt8) := do
  let body := unpadded (text.filter (!asciiBlank ·))
  if body.length % 4 = 1 then failure
  return octets (← body.mapM base64Sextet)

/-- Read what can be read of some code units by their low bytes, up to the first padding sign. -/
def lenientDecode (units : List Nat) : List UInt8 :=
  octets (((units.map (· % 0x100)).takeWhile (· ≠ paddingSign)).filterMap lenientSextet)

/-! ## What is written -/

/-- Each group is six bits. -/
theorem sextets_lt (bytes : List UInt8) : ∀ sextet ∈ sextets bytes, sextet < 64 := by
  induction bytes using sextets.induct with
  | case1 first second third bytes ih =>
    have bound := first.toNat_lt
    have bound' := second.toNat_lt
    have bound'' := third.toNat_lt
    intro sextet inside
    simp only [sextets, List.mem_cons] at inside
    rcases inside with rfl | rfl | rfl | rfl | inside
    · omega
    · omega
    · omega
    · omega
    · exact ih sextet inside
  | case2 first second =>
    have bound := first.toNat_lt
    have bound' := second.toNat_lt
    intro sextet inside
    simp only [sextets, List.mem_cons, List.not_mem_nil, or_false] at inside
    omega
  | case3 first =>
    have bound := first.toNat_lt
    intro sextet inside
    simp only [sextets, List.mem_cons, List.not_mem_nil, or_false] at inside
    omega
  | case4 => simp [sextets]

/-- The bytes of the groups of some bytes. -/
@[simp]
theorem octets_sextets (bytes : List UInt8) : octets (sextets bytes) = bytes := by
  induction bytes using sextets.induct with
  | case1 first second third bytes ih =>
    have bound := first.toNat_lt
    have bound' := second.toNat_lt
    have bound'' := third.toNat_lt
    have one : first.toNat / 4 * 4 + (first.toNat % 4 * 16 + second.toNat / 16) / 16 =
        first.toNat := by omega
    have two : (first.toNat % 4 * 16 + second.toNat / 16) % 16 * 16 +
        (second.toNat % 16 * 4 + third.toNat / 64) / 4 = second.toNat := by omega
    have three : (second.toNat % 16 * 4 + third.toNat / 64) % 4 * 64 + third.toNat % 64 =
        third.toNat := by omega
    rw [sextets, octets, ih, one, two, three]
    simp only [UInt8.ofNat_toNat]
  | case2 first second =>
    have bound := first.toNat_lt
    have bound' := second.toNat_lt
    have one : first.toNat / 4 * 4 + (first.toNat % 4 * 16 + second.toNat / 16) / 16 =
        first.toNat := by omega
    have two : (first.toNat % 4 * 16 + second.toNat / 16) % 16 * 16 +
        second.toNat % 16 * 4 / 4 = second.toNat := by omega
    rw [sextets, octets, one, two]
    simp only [UInt8.ofNat_toNat]
  | case3 first =>
    have bound := first.toNat_lt
    have one : first.toNat / 4 * 4 + first.toNat % 4 * 16 / 16 = first.toNat := by omega
    rw [sextets, octets, one]
    simp only [UInt8.ofNat_toNat]
  | case4 => rfl

/-- A character stands for its six bits. -/
theorem base64Sextet_character {sextet : Nat} (small : sextet < 64) :
    base64Sextet (base64Character sextet) = some sextet := by
  revert sextet
  decide

/-- A character of the alphabet is no white space, no padding and no sign of another alphabet. -/
theorem base64Character_plain {sextet : Nat} (small : sextet < 64) :
    asciiBlank (base64Character sextet) = false ∧ base64Character sextet ≠ paddingSign ∧
      lenientSextet (base64Character sextet) = some sextet := by
  revert sextet
  decide

/-- Four groups for three bytes. -/
theorem sextets_length (bytes : List UInt8) :
    (sextets bytes).length = bytes.length / 3 * 4 + (bytes.length % 3 + (bytes.length % 3 + 1) / 2) := by
  induction bytes using sextets.induct with
  | case1 first second third bytes ih =>
    simp only [sextets, List.length_cons, ih]
    omega
  | case2 first second => simp [sextets]
  | case3 first => simp [sextets]
  | case4 => simp [sextets]

/-- No character of the text is above the ASCII range. -/
theorem base64Encode_ascii (bytes : List UInt8) : ∀ point ∈ base64Encode bytes, point < 0x80 := by
  have small : ∀ sextet, sextet < 64 → base64Character sextet < 0x80 := by decide
  intro point inside
  rcases List.mem_append.mp inside with inside | inside
  · obtain ⟨sextet, written, rfl⟩ := List.mem_map.mp inside
    exact small sextet (sextets_lt bytes sextet written)
  · rw [List.eq_of_mem_replicate inside]
    decide

/-! ## What is read -/

/-- Reading stops at the padding, and every character in front of it counts. -/
theorem lenientDecode_encode (bytes : List UInt8) : lenientDecode (base64Encode bytes) = bytes := by
  have low : (base64Encode bytes).map (· % 0x100) = base64Encode bytes := by
    refine (List.map_congr_left fun point inside => ?_).trans (List.map_id _)
    have small := base64Encode_ascii bytes point inside
    exact Nat.mod_eq_of_lt (by omega)
  have body : (base64Encode bytes).takeWhile (· ≠ paddingSign) =
      (sextets bytes).map base64Character := by
    have plain : ∀ point ∈ (sextets bytes).map base64Character, decide (point ≠ paddingSign) = true := by
      intro point inside
      obtain ⟨sextet, written, rfl⟩ := List.mem_map.mp inside
      exact decide_eq_true (base64Character_plain (sextets_lt bytes sextet written)).2.1
    rw [base64Encode, List.takeWhile_append_of_pos plain]
    cases (3 - bytes.length % 3) % 3 with
    | zero => simp
    | succ count => simp [List.replicate_succ]
  have all : ((sextets bytes).map base64Character).filterMap lenientSextet = sextets bytes := by
    rw [List.filterMap_map]
    calc (sextets bytes).filterMap (lenientSextet ∘ base64Character)
        = (sextets bytes).filterMap some :=
          List.filterMap_congr fun sextet written =>
            (base64Character_plain (sextets_lt bytes sextet written)).2.2
      _ = sextets bytes := List.filterMap_some
  rw [lenientDecode, low, body, all, octets_sextets]

/-- The padding behind some characters is what is taken off. -/
theorem unpadded_append {body : List Nat} (plain : ∀ point ∈ body, point ≠ paddingSign) {count : Nat}
    (few : count ≤ 2) (whole : (body.length + count) % 4 = 0) :
    unpadded (body ++ List.replicate count paddingSign) = body := by
  have size : (body ++ List.replicate count paddingSign).length = body.length + count := by simp
  have last : body.getLast? ≠ some paddingSign := fun ends =>
    plain paddingSign (List.mem_of_getLast? ends) rfl
  rw [unpadded, size, if_pos whole]
  match count, few with
  | 0, _ =>
    have kept : body.drop (body.length + 0 - 2) ≠ [paddingSign, paddingSign] := by
      intro ends
      have inside : paddingSign ∈ body.drop (body.length + 0 - 2) := by rw [ends]; simp
      exact plain paddingSign (List.mem_of_mem_drop inside) rfl
    rw [List.replicate_zero, List.append_nil, if_neg kept, if_neg last]
  | 1, _ =>
    obtain rfl | ⟨front, final, rfl⟩ := List.eq_nil_or_concat' body
    · simp at whole
    have other : final ≠ paddingSign := plain final (by simp)
    have ends : (front ++ [final] ++ List.replicate 1 paddingSign).drop
        ((front ++ [final]).length + 1 - 2) = [final, paddingSign] := by
      simp [List.append_assoc]
    rw [ends, if_neg (by simp [other]), if_pos (by simp)]
    simp
  | 2, _ =>
    rw [if_pos (by simp)]
    simp [List.replicate_succ]

/-- The text is in order. -/
theorem forgivingDecode_encode (bytes : List UInt8) :
    forgivingDecode (base64Encode bytes) = some bytes := by
  have plain : ∀ point ∈ (sextets bytes).map base64Character,
      asciiBlank point = false ∧ point ≠ paddingSign := by
    intro point inside
    obtain ⟨sextet, written, rfl⟩ := List.mem_map.mp inside
    have facts := base64Character_plain (sextets_lt bytes sextet written)
    exact ⟨facts.1, facts.2.1⟩
  have solid : (base64Encode bytes).filter (!asciiBlank ·) = base64Encode bytes := by
    apply List.filter_eq_self.mpr
    intro point inside
    rcases List.mem_append.mp inside with inside | inside
    · rw [(plain point inside).1]
      rfl
    · rw [List.eq_of_mem_replicate inside]
      decide
  have size := sextets_length bytes
  have body : unpadded (base64Encode bytes) = (sextets bytes).map base64Character := by
    apply unpadded_append fun point inside => (plain point inside).2
    · omega
    · have remainder : bytes.length % 3 = 0 ∨ bytes.length % 3 = 1 ∨ bytes.length % 3 = 2 := by omega
      rw [List.length_map, size]
      rcases remainder with none_ | one | two
      · rw [none_]
        omega
      · rw [one]
        omega
      · rw [two]
        omega
  have all : ((sextets bytes).map base64Character).mapM base64Sextet = some (sextets bytes) := by
    have each := sextets_lt bytes
    generalize sextets bytes = groups at each ⊢
    induction groups with
    | nil => rfl
    | cons group groups ih =>
      rw [List.map_cons, List.mapM_cons, base64Sextet_character (each group List.mem_cons_self),
        ih fun other inside => each other (List.mem_cons_of_mem _ inside)]
      rfl
  have enough : ¬ ((sextets bytes).map base64Character).length % 4 = 1 := by
    rw [List.length_map, size]
    omega
  rw [forgivingDecode, solid, body]
  simp only [if_neg enough, all]
  simp

end MultiUserChat
