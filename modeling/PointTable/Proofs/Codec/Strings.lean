import Mathlib.Data.List.DropRight
import PointTable.Proofs.Codec.Integers

/-!
# Text in registers

Registers carry octets, two each, and a text is framed by cutting its octets or padding them with
zeros until they fill the registers. Packing octets into words and taking words apart are inverse,
so what comes back is the framed text without the padding: a text keeps its first characters, those
beyond ASCII as question marks, up to the last that is not NUL. In the other direction, padding
restores the zeros that decoding drops, so ASCII words come back as they were.
-/

namespace PointTable.Codec

/-! ## Octets and characters -/

/-- The character itself, or a question mark if it is beyond ASCII. -/
def asciiChar (c : Char) : Char :=
  if c.toNat < 128 then c else '?'

theorem octetOfChar_lt (c : Char) : octetOfChar c < 128 := by
  unfold octetOfChar
  split
  · assumption
  · decide

@[simp] theorem charOfOctet_octetOfChar (c : Char) : charOfOctet (octetOfChar c) = asciiChar c := by
  unfold charOfOctet asciiChar
  rw [if_pos (octetOfChar_lt c), octetOfChar]
  split
  · exact Char.ofNat_toNat c
  · rfl

@[simp] theorem toNat_charOfOctet {octet : Nat} (ascii : octet < 128) :
    (charOfOctet octet).toNat = octet := by
  have valid : octet.isValidChar := .inl (by omega)
  rw [charOfOctet, if_pos ascii, Char.ofNat, dif_pos valid]
  rfl

@[simp] theorem octetOfChar_charOfOctet {octet : Nat} (ascii : octet < 128) :
    octetOfChar (charOfOctet octet) = octet := by
  have code := toNat_charOfOctet ascii
  rw [octetOfChar, code, if_pos ascii]

theorem charOfOctet_eq_nul_iff {octet : Nat} (ascii : octet < 128) :
    charOfOctet octet = '\x00' ↔ octet = 0 := by
  constructor
  · intro nul
    have code := toNat_charOfOctet ascii
    rw [nul] at code
    exact code.symm
  · rintro rfl
    rfl

/-! ## Padding -/

theorem dropPadding_eq (octets : List Nat) : dropPadding octets = octets.rdropWhile (· = 0) :=
  rfl

@[simp] theorem dropPadding_append_replicate (octets : List Nat) (count : Nat) :
    dropPadding (octets ++ List.replicate count 0) = dropPadding octets := by
  induction count with
  | zero => simp
  | succ count ih =>
      rw [List.replicate_succ', ← List.append_assoc, dropPadding_eq,
        List.rdropWhile_concat_pos _ _ _ (by simp)]
      exact ih

theorem length_dropPadding_le (octets : List Nat) :
    (dropPadding octets).length ≤ octets.length :=
  (List.rdropWhile_prefix _ octets).length_le

theorem dropPadding_padded (octets : List Nat) :
    dropPadding octets ++ List.replicate (octets.length - (dropPadding octets).length) 0 =
      octets := by
  have split : dropPadding octets ++ octets.rtakeWhile (· = 0) = octets :=
    List.rdropWhile_append_rtakeWhile
  have lengths := congrArg List.length split
  rw [List.length_append] at lengths
  have zeros : octets.rtakeWhile (· = 0) = List.replicate (octets.rtakeWhile (· = 0)).length 0 := by
    apply List.eq_replicate_of_mem
    intro octet member
    simpa using List.mem_rtakeWhile_imp member
  have dropped : octets.length - (dropPadding octets).length =
      (octets.rtakeWhile (· = 0)).length := by
    omega
  rw [dropped, ← zeros]
  exact split

/-- Zeros at the end of ASCII octets are NULs at the end of their characters. -/
theorem map_charOfOctet_dropPadding {octets : List Nat} (ascii : ∀ octet ∈ octets, octet < 128) :
    (dropPadding octets).map charOfOctet = (octets.map charOfOctet).rdropWhile (· = '\x00') := by
  induction octets using List.reverseRecOn with
  | nil => rfl
  | append_singleton octets last ih =>
      rw [List.forall_mem_append, List.forall_mem_singleton] at ascii
      obtain ⟨others, lastAscii⟩ := ascii
      rw [dropPadding_eq, List.map_append, List.map_singleton, List.rdropWhile_concat,
        List.rdropWhile_concat]
      by_cases zero : last = 0
      · rw [if_pos (by simpa using zero),
          if_pos (by simpa using (charOfOctet_eq_nul_iff lastAscii).mpr zero)]
        exact ih others
      · rw [if_neg (by simpa using zero),
          if_neg (by simpa using fun nul => zero ((charOfOctet_eq_nul_iff lastAscii).mp nul))]
        simp

/-! ## Packing -/

@[simp] theorem packOctets_octetsOf (order : StringOrder) (words : List Nat) :
    packOctets order (words.flatMap (octetsOf order)) = .ok words := by
  induction words with
  | nil => rfl
  | cons word words ih =>
      cases order with
      | abcd | badc =>
          refine Outcome.bind_eq_ok.mpr ⟨words, ih, ?_⟩
          rw [wordOfOctets, Nat.div_add_mod']
          rfl

theorem length_flatMap_octetsOf (order : StringOrder) (words : List Nat) :
    (words.flatMap (octetsOf order)).length = 2 * words.length := by
  induction words with
  | nil => rfl
  | cons word words ih =>
      have pair : (octetsOf order word).length = 2 := by cases order <;> rfl
      rw [List.flatMap_cons, List.length_append, pair, ih, List.length_cons]
      omega

theorem wordOfOctets_lt (order : StringOrder) {first second : Nat} (firstByte : first < 256)
    (secondByte : second < 256) : wordOfOctets order first second < 65536 := by
  cases order <;> simp only [wordOfOctets] <;> omega

@[simp] theorem octetsOf_wordOfOctets (order : StringOrder) {first second : Nat}
    (firstByte : first < 256) (secondByte : second < 256) :
    octetsOf order (wordOfOctets order first second) = [first, second] := by
  cases order <;> simp only [octetsOf, wordOfOctets, List.cons.injEq, and_true] <;> omega

/-- Octets that fill registers are the octets of words. -/
theorem exists_words (order : StringOrder) {octets : List Nat} {count : Nat}
    (length : octets.length = 2 * count) (bytes : ∀ octet ∈ octets, octet < 256) :
    ∃ words : List Nat, words.length = count ∧ (∀ word ∈ words, word < 65536) ∧
      words.flatMap (octetsOf order) = octets := by
  induction count generalizing octets with
  | zero =>
      obtain rfl := List.eq_nil_of_length_eq_zero length
      exact ⟨[], rfl, by simp, rfl⟩
  | succ count ih =>
      match octets with
      | [] => cases length
      | [_] =>
          simp only [List.length_singleton] at length
          omega
      | first :: second :: rest =>
          simp only [List.forall_mem_cons] at bytes
          obtain ⟨firstByte, secondByte, others⟩ := bytes
          have shorter : rest.length = 2 * count := by simpa [Nat.mul_succ] using length
          obtain ⟨words, counted, bounded, taken⟩ := ih shorter others
          have word := wordOfOctets_lt order firstByte secondByte
          refine ⟨wordOfOctets order first second :: words, by rw [List.length_cons, counted],
            List.forall_mem_cons.mpr ⟨word, bounded⟩, ?_⟩
          rw [List.flatMap_cons, octetsOf_wordOfOctets order firstByte secondByte, taken]
          rfl

/-! ## Framing -/

theorem framedOctets_natCast (text : String) (count : Nat) :
    framedOctets text count =
      (text.toList.map octetOfChar).take (2 * count) ++
        List.replicate (2 * count - ((text.toList.map octetOfChar).take (2 * count)).length) 0 := by
  have nonneg : ¬(count : Int) < 0 := by omega
  have octets : (2 * (count : Int)).toNat = 2 * count := by omega
  simp only [framedOctets, if_neg nonneg, octets]

@[simp] theorem length_framedOctets (text : String) (count : Nat) :
    (framedOctets text count).length = 2 * count := by
  rw [framedOctets_natCast, List.length_append, List.length_replicate, List.length_take]
  omega

theorem framedOctets_lt (text : String) (count : Nat) :
    ∀ octet ∈ framedOctets text count, octet < 128 := by
  intro octet member
  rw [framedOctets_natCast, List.mem_append] at member
  rcases member with kept | padding
  · obtain ⟨c, _, rfl⟩ := List.mem_map.mp (List.mem_of_mem_take kept)
    exact octetOfChar_lt c
  · rw [List.eq_of_mem_replicate padding]
    decide

/-- What a text keeps in a number of registers: its first characters, two for each, with a question
mark for those beyond ASCII, and without the NULs at the end. -/
def keptText (text : String) (count : Nat) : String :=
  String.ofList (((text.toList.take (2 * count)).map asciiChar).rdropWhile (· = '\x00'))

def textOfWords (order : StringOrder) (words : List Nat) : String :=
  String.ofList ((dropPadding (words.flatMap (octetsOf order))).map charOfOctet)

theorem textOfWords_framed {order : StringOrder} {text : String} {count : Nat} {words : List Nat}
    (framed : words.flatMap (octetsOf order) = framedOctets text count) :
    textOfWords order words = keptText text count := by
  have ascii : ∀ octet ∈ (text.toList.take (2 * count)).map octetOfChar, octet < 128 := by
    rw [List.forall_mem_map]
    exact fun c _ => octetOfChar_lt c
  rw [textOfWords, framed, framedOctets_natCast, dropPadding_append_replicate, ← List.map_take,
    map_charOfOctet_dropPadding ascii, List.map_map, keptText,
    show charOfOctet ∘ octetOfChar = asciiChar from funext charOfOctet_octetOfChar]

theorem keptText_eq_self {text : String} {count : Nat} (ascii : ∀ c ∈ text.toList, c.toNat < 128)
    (fits : text.length ≤ 2 * count) (bare : text.toList.getLast? ≠ some '\x00') :
    keptText text count = text := by
  have all : text.toList.take (2 * count) = text.toList :=
    List.take_of_length_le (by rwa [String.length_toList])
  have same : text.toList.map asciiChar = text.toList := by
    calc text.toList.map asciiChar
      _ = text.toList.map id := List.map_congr_left fun c member => if_pos (ascii c member)
      _ = text.toList := List.map_id _
  have whole : text.toList.rdropWhile (· = '\x00') = text.toList := by
    rw [List.rdropWhile_eq_self_iff]
    intro nonempty last
    rw [decide_eq_true_eq] at last
    exact bare (by rw [List.getLast?_eq_some_getLast nonempty, last])
  rw [keptText, all, same, whole, String.ofList_toList]

/-! ## Words of a reading -/

theorem mapM_wordOf_int (words : List Int) :
    (words.map .int).mapM wordOf = .ok (words.map maskWord) := by
  rw [Outcome.mapM_eq_ok, List.forall₂_map_left_iff, List.forall₂_map_right_iff, List.forall₂_same]
  intro word _
  rfl

theorem mapM_wordOf_ofNat {words : List Nat} (bounded : ∀ word ∈ words, word < 65536) :
    (words.map .ofNat).mapM wordOf = .ok words := by
  rw [Outcome.mapM_eq_ok, List.forall₂_map_left_iff, List.forall₂_same]
  intro word member
  exact congrArg Except.ok (maskWord_natCast (bounded word member))

theorem decodeString_eq_ok {data : List Cell} {offset count : Nat} {words : List Nat}
    (inside : offset + count ≤ data.length)
    (read : (segment data offset (offset + count : Nat)).mapM wordOf = .ok words)
    (order : StringOrder) :
    decodeString data offset count order = .ok (textOfWords order words) := by
  rw [Int.natCast_add] at read
  refine Outcome.bind_eq_ok.mpr ⟨(), requireWindow_eq_ok (by omega), ?_⟩
  exact Outcome.bind_eq_ok.mpr ⟨words, read, rfl⟩

theorem decodeString_append (before after : List Cell) {words : List Nat}
    (bounded : ∀ word ∈ words, word < 65536) (order : StringOrder) :
    decodeString (before ++ words.map .ofNat ++ after) before.length words.length order =
      .ok (textOfWords order words) := by
  apply decodeString_eq_ok (by simp)
  rw [segment_natCast, List.append_assoc, List.take_length_add_append, List.drop_left,
    ← List.length_map (f := Cell.ofNat), List.take_left]
  exact mapM_wordOf_ofNat bounded

theorem decodeString_int {data : List Int} {offset count : Nat}
    (inside : offset + count ≤ data.length) (order : StringOrder) :
    decodeString (data.map .int) offset count order =
      .ok (textOfWords order (((data.drop offset).take count).map maskWord)) := by
  apply decodeString_eq_ok (by simpa using inside)
  rw [segment_natCast, List.drop_take, Nat.add_sub_cancel_left, ← List.map_drop, ← List.map_take]
  exact mapM_wordOf_int _

/-! ## The codec of a string order -/

theorem encodeString_eq_ok (text : String) (count : Nat) (order : StringOrder) :
    ∃ words, encodeString text count order = .ok words ∧ words.length = count ∧
      (∀ word ∈ words, word < 65536) ∧
      words.flatMap (octetsOf order) = framedOctets text count := by
  obtain ⟨words, counted, bounded, taken⟩ := exists_words order (length_framedOctets text count)
    fun octet member => Nat.lt_trans (framedOctets_lt text count octet member) (by decide)
  refine ⟨words, ?_, counted, bounded, taken⟩
  rw [encodeString, ← taken, packOctets_octetsOf]

/-- Framing the text of ASCII words restores the padding that the text lacks. -/
theorem framedOctets_textOfWords {order : StringOrder} {words : List Nat}
    (ascii : ∀ octet ∈ words.flatMap (octetsOf order), octet < 128) :
    framedOctets (textOfWords order words) words.length = words.flatMap (octetsOf order) := by
  have kept : (textOfWords order words).toList.map octetOfChar =
      dropPadding (words.flatMap (octetsOf order)) := by
    rw [textOfWords, String.toList_ofList, List.map_map]
    calc (dropPadding (words.flatMap (octetsOf order))).map (octetOfChar ∘ charOfOctet)
      _ = (dropPadding (words.flatMap (octetsOf order))).map id := by
        apply List.map_congr_left
        intro octet member
        exact octetOfChar_charOfOctet (ascii octet ((List.rdropWhile_prefix _ _).subset member))
      _ = dropPadding (words.flatMap (octetsOf order)) := List.map_id _
  have length := length_flatMap_octetsOf order words
  have fits := length_dropPadding_le (words.flatMap (octetsOf order))
  rw [framedOctets_natCast, kept, ← length, List.take_of_length_le fits]
  exact dropPadding_padded _

theorem octets_of_ints_lt (order : StringOrder) {words : List Int}
    (ascii : ∀ word ∈ words, word % 65536 / 256 < 128 ∧ word % 256 < 128) :
    ∀ octet ∈ (words.map maskWord).flatMap (octetsOf order), octet < 128 := by
  intro octet member
  obtain ⟨word, inWords, taken⟩ := List.mem_flatMap.mp member
  obtain ⟨integer, inIntegers, rfl⟩ := List.mem_map.mp inWords
  obtain ⟨high, low⟩ := ascii integer inIntegers
  have masked := natCast_maskWord integer
  cases order with
  | abcd | badc =>
      simp only [octetsOf, List.mem_cons, List.not_mem_nil, or_false] at taken
      omega

/-- What a string order promises for texts, wherever their words stand in a reading. -/
structure CodesTexts (order : StringOrder) : Prop where
  /-- A text is encoded by as many words as there are registers, and they hold what the text keeps
  in them. -/
  words_of_text : ∀ (text : String) (count : Nat), ∃ words : List Nat,
    encodeString text count order = .ok words ∧ words.length = count ∧
      (∀ word ∈ words, word < 65536) ∧ ∀ before after : List Cell,
        decodeString (before ++ words.map .ofNat ++ after) before.length count order =
          .ok (keptText text count)
  /-- ASCII texts that fit and have no NUL at their end are kept as they are. -/
  kept_whole : ∀ (text : String) (count : Nat), (∀ c ∈ text.toList, c.toNat < 128) →
    text.length ≤ 2 * count → text.toList.getLast? ≠ some '\x00' → keptText text count = text
  /-- The text of registers that hold only ASCII is encoded by the same words. -/
  text_of_words : ∀ (data : List Int) (offset count : Nat), offset + count ≤ data.length →
    (∀ word ∈ (data.drop offset).take count, word % 65536 / 256 < 128 ∧ word % 256 < 128) →
    ∃ text, decodeString (data.map .int) offset count order = .ok text ∧
      encodeString text count order =
        .ok (((data.drop offset).take count).map fun word => (word % 65536).toNat)

/-- Registers keep the beginning of a text, and ASCII registers come back as they were. -/
theorem codesTexts (order : StringOrder) : CodesTexts order := by
  constructor
  case words_of_text =>
    intro text count
    obtain ⟨words, encoded, counted, bounded, framed⟩ := encodeString_eq_ok text count order
    refine ⟨words, encoded, counted, bounded, fun before after => ?_⟩
    rw [← counted, decodeString_append before after bounded order, counted,
      textOfWords_framed framed]
  case kept_whole =>
    intro text count ascii fits bare
    exact keptText_eq_self ascii fits bare
  case text_of_words =>
    intro data offset count inside ascii
    refine ⟨_, decodeString_int inside order, ?_⟩
    have framed := framedOctets_textOfWords (octets_of_ints_lt order ascii)
    rw [List.length_map, List.length_take, List.length_drop, Nat.min_eq_left (by omega)] at framed
    rw [encodeString, framed, packOctets_octetsOf]
    rfl

example : keptText "é\x00B\x00\x00D" 2 = "?\x00B" := by decide

end PointTable.Codec
